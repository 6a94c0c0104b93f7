namespace LexPattern.Name.Table

def fromU10000 : List String := [
  "/10000aLINEAR B SYLLABLE B008 AdB038 EdB028 IdB061 OdB010 UdB001 DAdB045 DEdB007 DIdB014 DO",
  "dB051 DUdB057 JAdB046 JE/1000DdB036 JOdB065 JUdB077 KAdB044 KEdB067 KIdB070 KOdB081 KUdB080 MA",
  "dB013 MEdB073 MIdB015 MOdB023 MUdB006 NAdB024 NEdB030 NIdB052 NOdB055 NUdB003 PAdB072 PE",
  "dB039 PIdB011 POdB050 PUdB016 QAdB078 QEdB021 QIdB032 QO/10028dB060 RAdB027 REdB053 RIdB002 RO",
  "dB026 RUdB031 SAdB009 SEdB041 SIdB012 SOdB058 SUdB059 TAdB004 TEdB037 TIdB005 TOdB069 TU",
  "dB054 WAdB075 WEdB040 WIdB042 WO/1003CdB017 ZAdB074 ZE/1003FdB020 ZOdB025 A2dB043 A3dB085 AU",
  "dB071 DWEdB090 DWOdB048 NWAdB029 PU2dB062 PTEdB076 RA2dB033 RA3dB068 RO2dB066 TA2dB087 TWE",
  "dB091 TWO/10050cSYMBOL B018dB019dB022dB034dB047dB049dB056dB063dB064dB079dB082dB083dB086dB089",
  "/10080cIDEOGRAM B100 MANdB102 WOMANdB104 DEERdB105 EQUIDdB105F MAREdB105M STALLIONdB106F EWE",
  "dB106M RAMdB107F SHE-GOATdB107M HE-GOATdB108F SOWdB108M BOARdB109F COWdB109M BULLdB120 WHEAT",
  "dB121 BARLEYdB122 OLIVEdB123 SPICEdB125 CYPERUScMONOGRAM B127 KAPOdB128 KANAKO",
  "cIDEOGRAM B130 OILdB131 WINEdB132cMONOGRAM B133 AREPAdB135 MERIcIDEOGRAM B140 BRONZEdB141 GOLD",
  "dB142dB145 WOOLdB146dB150dB151 HORNdB152dB153dB154cMONOGRAM B156 TURO2cIDEOGRAM B157dB158",
  "dB159 CLOTHdB160dB161dB162 GARMENTdB163 ARMOURdB164dB165dB166dB167dB168dB169dB170dB171dB172",
  "dB173 MONTHdB174dB176 TREEdB177dB178dB179dB180dB181dB182dB183dB184dB185dB189dB190dB191 HELMET",
  "dB220 FOOTSTOOLdB225 BATHTUBdB230 SPEARdB231 ARROWdB232dB233 SWORDdB234dB236",
  "dB240 WHEELED CHARIOTdB241 CHARIOTdB242 CHARIOT FRAMEdB243 WHEELdB245dB246cMONOGRAM B247 DIPTE",
  "cIDEOGRAM B248dB249dB251dB252dB253dB254 DARTdB255dB256dB257dB258dB259dVESSEL B155eB200eB201",
  "eB202eB203eB204eB205eB206eB207eB208eB209eB210eB211eB212eB213eB214eB215eB216eB217eB218eB219",
  "eB221eB222eB226eB227eB228eB229eB250eB305/10100aAEGEAN WORD SEPARATOR LINEdDOTbCHECK MARK/10107",
  "bNUMBER ONEcTWOcTHREEcFOURcFIVEcSIXcSEVENcEIGHTcNINEcTENcTWENTYcTHIRTYcFORTYcFIFTYcSIXTY",
  "cSEVENTYcEIGHTYcNINETYcONE HUNDREDcTWO HUNDREDcTHREE HUNDREDcFOUR HUNDREDcFIVE HUNDRED",
  "cSIX HUNDREDcSEVEN HUNDREDcEIGHT HUNDREDcNINE HUNDREDcONE THOUSANDcTWO THOUSANDcTHREE THOUSAND",
  "cFOUR THOUSANDcFIVE THOUSANDcSIX THOUSANDcSEVEN THOUSANDcEIGHT THOUSANDcNINE THOUSAND",
  "cTEN THOUSANDcTWENTY THOUSANDcTHIRTY THOUSANDcFORTY THOUSANDcFIFTY THOUSANDcSIXTY THOUSAND",
  "cSEVENTY THOUSANDcEIGHTY THOUSANDcNINETY THOUSAND/10137bWEIGHT BASE UNITcFIRST SUBUNIT",
  "cSECOND SUBUNITcTHIRD SUBUNITcFOURTH SUBUNITbDRY MEASURE FIRST SUBUNIT",
  "bLIQUID MEASURE FIRST SUBUNITbMEASURE SECOND SUBUNITcTHIRD SUBUNIT",
  "aGREEK ACROPHONIC ATTIC ONE QUARTEReHALFeDRACHMAdFIVEdFIFTYdFIVE HUNDREDeTHOUSAND",
  "dFIFTY THOUSANDdFIVE TALENTSdTEN TALENTSdFIFTY TALENTSdONE HUNDRED TALENTS",
  "dFIVE HUNDRED TALENTSdONE THOUSAND TALENTSdFIVE THOUSAND TALENTSeSTATERSdTEN STATERS",
  "dFIFTY STATERSdONE HUNDRED STATERSdFIVE HUNDRED STATERSdONE THOUSAND STATERS",
  "dTEN THOUSAND STATERSdFIFTY THOUSAND STATERSdTEN MNAScHERAEUM ONE PLETHRONcTHESPIAN ONE",
  "cHERMIONIAN ONEcEPIDAUREAN TWOcTHESPIAN TWOcCYRENAIC TWO DRACHMAScEPIDAUREAN TWO DRACHMAS",
  "cTROEZENIAN FIVEdTENeALTERNATE FORMcHERMIONIAN TENcMESSENIAN TENcTHESPIAN TENdTHIRTY",
  "cTROEZENIAN FIFTYeALTERNATE FORMcHERMIONIAN FIFTYcTHESPIAN FIFTYdONE HUNDREDdTHREE HUNDRED",
  "cEPIDAUREAN FIVE HUNDREDcTROEZENIAN FIVE HUNDREDcTHESPIAN FIVE HUNDREDcCARYSTIAN FIVE HUNDRED",
  "cNAXIAN FIVE HUNDREDcTHESPIAN ONE THOUSANDdFIVE THOUSANDcDELPHIC FIVE MNAScSTRATIAN FIFTY MNAS",
  "bONE HALF SIGNeALTERNATE FORMbTWO THIRDS SIGNbTHREE QUARTERS SIGNbYEAR SIGNbTALENT SIGN",
  "bDRACHMA SIGNbOBOL SIGNbTWO OBOLS SIGNbTHREE OBOLS SIGNbFOUR OBOLS SIGNbFIVE OBOLS SIGN",
  "bMETRETES SIGNbKYATHOS BASE SIGNbLITRA SIGNbOUNKIA SIGNbXESTES SIGNbARTABE SIGNbAROURA SIGN",
  "bGRAMMA SIGNbTRYBLION BASE SIGNbZERO SIGNbONE QUARTER SIGNbSINUSOID SIGNbINDICTION SIGN",
  "aNOMISMA SIGN/10190aROMAN SEXTANS SIGNbUNCIA SIGNbSEMUNCIA SIGNbSEXTULA SIGN",
  "bDIMIDIA SEXTULA SIGNbSILIQUA SIGNbDENARIUS SIGNbQUINARIUS SIGNbSESTERTIUS SIGNbDUPONDIUS SIGN",
  "bAS SIGNbCENTURIAL SIGNaASCIA SYMBOL/101A0aGREEK SYMBOL TAU RHO/101D0",
  "aPHAISTOS DISC SIGN PEDESTRIANdPLUMED HEADdTATTOOED HEADdCAPTIVEdCHILDdWOMANdHELMETdGAUNTLET",
  "dTIARAdARROWdBOWdSHIELDdCLUBdMANACLESdMATTOCKdSAWdLIDdBOOMERANGdCARPENTRY PLANEdDOLIUMdCOMB",
  "dSLINGdCOLUMNdBEEHIVEdSHIPdHORNdHIDEdBULLS LEGdCATdRAMdEAGLEdDOVEdTUNNYdBEEdPLANE TREEdVINE",
  "dPAPYRUSdROSETTEdLILYdOX BACKdFLUTEdGRATERdSTRAINERdSMALL AXEdWAVY BAND",
  "dCOMBINING OBLIQUE STROKE/10280aLYCIAN LETTER AcEcBcBHcGcDcIcWcZcTHcJcKcQcLcMcNcMMcNNcUcPcKKcR",
  "cScTcTTcANcENcHcX/102A0aCARIAN LETTER AcP2cDcLcUUUcRcLDcA2cQcBcMcOcD2cTcSHcSH2cScC-18cUcNNcXcN",
  "cTT2cPcSScIcEcUUUUcKcK2cNDcUUcGcG2cSTcST2cNGcIIcC-39cTTcUUU2cRRcMBcMB2cMB3cMB4cLD2cE2cUUU3",
  "/102E0aCOPTIC EPACT THOUSANDS MARKcDIGIT ONEdTWOdTHREEdFOURdFIVEdSIXdSEVENdEIGHTdNINE",
  "cNUMBER TENdTWENTYdTHIRTYdFORTYdFIFTYdSIXTYdSEVENTYdEIGHTYdNINETYdONE HUNDREDdTWO HUNDRED",
  "dTHREE HUNDREDdFOUR HUNDREDdFIVE HUNDREDdSIX HUNDREDdSEVEN HUNDREDdEIGHT HUNDREDdNINE HUNDRED",
  "/10300aOLD ITALIC LETTER AdBEdKEdDEdEdVEdZEdHEdTHEdIdKAdELdEMdENdESHdOdPEdSHEdKUdERdESdTEdU",
  "dEKSdPHEdKHEdEFdERSdCHEdIIdUUdESScNUMERAL ONEdFIVEdTENdFIFTY/1032DcLETTER YEdNORTHERN TSE",
  "dSOUTHERN TSEaGOTHIC LETTER AHSAcBAIRKANcGIBAcDAGScAIHVUScQAIRTHRAcIUJAcHAGLcTHIUTHcEIScKUSMA",
  "cLAGUScMANNAcNAUTHScJERcURUScPAIRTHRAcNINETYcRAIDAcSAUILcTEIWScWINJAcFAIHUcIGGWScHWAIRcOTHAL",
  "cNINE HUNDRED/10350aOLD PERMIC LETTER ANdBURdGAIdDOIdEdZHOIdDZHOIdZATAdDZITAdIdKOKEdLEIdMENOE",
  "dNENOEdVOOIdPEEIdREIdSIIdTAIdUdCHERYdSHOOIdSHCHOOIdYRYdYERUdOdOOdEFdHAdTSIUdVERdYERdYERIdYAT",
  "dIEdYUdYAdIAaCOMBINING OLD PERMIC LETTER ANeDOIeZATAeNENOEeSII/10380aUGARITIC LETTER ALPAcBETA",
  "cGAMLAcKHAcDELTAcHOcWOcZETAcHOTAcTETcYODcKAFcSHINcLAMDAcMEMcDHALcNUNcZUcSAMKAcAINcPUcSADEcQOPA",
  "cRASHAcTHANNAcGHAINcTOcIcUcSSU/1039FbWORD DIVIDERaOLD PERSIAN SIGN AdIdUdKAdKUdGAdGUdXAdCAdJA",
  "dJIdTAdTUdDAdDIdDUdTHAdPAdBAdFAdNAdNUdMAdMIdMUdYAdVAdVIdRAdRUdLAdSAdZAdSHAdSSAdHA/103C8",
  "dAURAMAZDAAdAURAMAZDAA-2dAURAMAZDAAHAdXSHAAYATHIYAdDAHYAAUSHdDAHYAAUSH-2dBAGAdBUUMISH",
  "cWORD DIVIDERcNUMBER ONEdTWOdTENdTWENTYdHUNDRED/10400aDESERET CAPITAL LETTER LONG IeEeAeAHeO",
  "eOOdSHORT IeEeAeAHeOeOOdAYdOWdWUdYEEdHdPEEdBEEdTEEdDEEdCHEEdJEEdKAYdGAYdEFdVEEdETHdTHEEdESdZEE",
  "dESHdZHEEdERdELdEMdENdENGdOIdEWbSMALL LETTER LONG IeEeAeAHeOeOOdSHORT IeEeAeAHeOeOOdAYdOWdWU",
  "dYEEdHdPEEdBEEdTEEdDEEdCHEEdJEEdKAYdGAYdEFdVEEdETHdTHEEdESdZEEdESHdZHEEdERdELdEMdENdENGdOIdEW",
  "aSHAVIAN LETTER PEEPcTOTcKICKcFEEcTHIGHcSOcSUREcCHURCHcYEAcHUNGcBIBcDEADcGAGcVOWcTHEYcZOO",
  "cMEASUREcJUDGEcWOEcHA-HAcLOLLcMIMEcIFcEGGcASHcADOcONcWOOLcOUTcAHcROARcNUNcEATcAGEcICEcUPcOAK",
  "cOOZEcOILcAWEcAREcORcAIRcERRcARRAYcEARcIANcYEWaOSMANYA LETTER ALEFcBAcTAcJAcXAcKHAcDEELcRAcSA",
  "cSHIINcDHAcCAYNcGAcFAcQAAFcKAAFcLAANcMIINcNUUNcWAWcHAcYAcAcEcIcOcUcAAcEEcOO/104A0bDIGIT ZERO",
  "cONEcTWOcTHREEcFOURcFIVEcSIXcSEVENcEIGHTcNINE/104B0aOSAGE CAPITAL LETTER AdAIdAINdAHdBRAdCHA",
  "dEHCHAdEdEINdHAdHYAdIdKAdEHKAdKYAdLAdMAdNAdOdOINdPAdEHPAdSAdSHAdTAdEHTAdTSAdEHTSAdTSHAdDHAdU",
  "dWAdKHAdGHAdZAdZHA/104D8bSMALL LETTER AdAIdAINdAHdBRAdCHAdEHCHAdEdEINdHAdHYAdIdKAdEHKAdKYAdLA",
  "dMAdNAdOdOINdPAdEHPAdSAdSHAdTAdEHTAdTSAdEHTSAdTSHAdDHAdUdWAdKHAdGHAdZAdZHA/10500",
  "aELBASAN LETTER AcBEcCEcCHEcDEcNDEcDHEcEIcEcFEcGEcGJEcHEcIcJEcKEcLEcLLEcMEcNEcNAcNJEcOcPEcQE",
  "cREcRREcSEcSHEcTEcTHEcUcVEcXEcYcZEcZHEcGHEcGHAMMAcKHE/10530aCAUCASIAN ALBANIAN LETTER ALTdBET",
  "dGIMdDATdEBdZARLdEYNdZHILdTASdCHAdYOWDdZHAdIRBdSHAdLANdINYAdXEYNdDYANdCARdJHOXdKARdLYITdHEYT",
  "dQAYdAORdCHOYdCHIdCYAYdMAQdQARdNOWCdDZYAYdSHAKdJAYNdONdTYAYdFAMdDZAYdCHATdPENdGHEYSdRATdSEYK",
  "dVEYZdTIWRdSHOYdIWNdCYAWdCAYNdYAYDdPIWRdKIW/1056FcCITATION MARKaVITHKUQI CAPITAL LETTER AdBBE",
  "dBEdCEdCHEdDEdDHEdEIdEdFEdGA/1057CdHAdHHAdIdIJEdJEdKAdLAdLLAdMEdNEdNJEdOdPEdQAdRE/1058CdSEdSHE",
  "dTEdTHEdUdVEdXE/10594dYdZE/10597bSMALL LETTER AdBBEdBEdCEdCHEdDEdDHEdEIdEdFEdGA/105A3dHAdHHAdI",
  "dIJEdJEdKAdLAdLLAdMEdNEdNJEdOdPEdQAdRE/105B3dSEdSHEdTEdTHEdUdVEdXE/105BBdYdZE/10600",
  "aLINEAR A SIGN AB001dAB002dAB003dAB004dAB005dAB006dAB007dAB008dAB009dAB010dAB011dAB013dAB016",
  "dAB017dAB020dAB021dAB021FdAB021MdAB022dAB022FdAB022MdAB023dAB023MdAB024dAB026dAB027dAB028",
  "dA028BdAB029dAB030dAB031dAB034dAB037dAB038dAB039dAB040dAB041dAB044dAB045dAB046dAB047dAB048",
  "dAB049dAB050dAB051dAB053dAB054dAB055dAB056dAB057dAB058dAB059dAB060dAB061dAB065dAB066dAB067",
  "dAB069dAB070dAB073dAB074dAB076dAB077dAB078dAB079dAB080dAB081dAB082dAB085dAB086dAB087dA100-102",
  "dAB118dAB120dA120BdAB122dAB123dAB131AdAB131BdA131CdAB164dAB171dAB180dAB188dAB191dA301dA302",
  "dA303dA304dA305dA306dA307dA308dA309AdA309BdA309CdA310dA311dA312dA313AdA313BdA313CdA314dA315",
  "dA316dA317dA318dA319dA320dA321dA322dA323dA324dA325dA326dA327dA328dA329dA330dA331dA332dA333",
  "dA334dA335dA336dA337dA338dA339dA340dA341dA342dA343dA344dA345dA346dA347dA348dA349dA350dA351",
  "dA352dA353dA354dA355dA356dA357dA358dA359dA360dA361dA362dA363dA364dA365dA366dA367dA368dA369",
  "dA370dA371dA400-VASdA401-VASdA402-VASdA403-VASdA404-VASdA405-VASdA406-VASdA407-VASdA408-VAS",
  "dA409-VASdA410-VASdA411-VASdA412-VASdA413-VASdA414-VASdA415-VASdA416-VASdA417-VASdA418-VAS",
  "dA501dA502dA503dA504dA505dA506dA508dA509dA510dA511dA512dA513dA515dA516dA520dA521dA523dA524",
  "dA525dA526dA527dA528dA529dA530dA531dA532dA534dA535dA536dA537dA538dA539dA540dA541dA542dA545",
  "dA547dA548dA549dA550dA551dA552dA553dA554dA555dA556dA557dA559dA563dA564dA565dA566dA568dA569",
  "dA570dA571dA572dA573dA574dA575dA576dA577dA578dA579dA580dA581dA582dA583dA584dA585dA586dA587",
  "dA588dA589dA591dA592dA594dA595dA596dA598dA600dA601dA602dA603dA604dA606dA608dA609dA610dA611",
  "dA612dA613dA614dA615dA616dA617dA618dA619dA620dA621dA622dA623dA624dA626dA627dA628dA629dA634",
  "dA637dA638dA640dA642dA643dA644dA645dA646dA648dA649dA651dA652dA653dA654dA655dA656dA657dA658",
  "dA659dA660dA661dA662dA663dA664/10740dA701 AdA702 BdA703 DdA704 EdA705 FdA706 HdA707 JdA708 K",
  "dA709 LdA709-2 L2dA709-3 L3dA709-4 L4dA709-6 L6dA710 WdA711 XdA712 YdA713 OMEGAdA714 ABB",
  "dA715 BBdA717 DDdA726 EYYYdA732 JE/10760dA800dA801dA802dA803dA804dA805dA806dA807/10780",
  "aMODIFIER LETTER SMALL CAPITAL AAcSUPERSCRIPT TRIANGULAR COLONdHALF TRIANGULAR COLONcSMALL AE",
  "dCAPITAL BdB WITH HOOK/10787dDZ DIGRAPHfWITH RETROFLEX HOOKgCURLdDEZH DIGRAPHdD WITH TAILfHOOK",
  "gAND TAILdREVERSED EdCLOSED REVERSED OPEN EdFENG DIGRAPHdRAMS HORNdCAPITAL GdG WITH HOOK",
  "dCAPITAL G WITH HOOKdH WITH STROKEdCAPITAL HdHENG WITH HOOKdDOTLESS J WITH STROKE AND HOOK",
  "dLS DIGRAPHdLZ DIGRAPHdL WITH BELTdCAPITAL L WITH BELTdL WITH RETROFLEX HOOK AND BELTdLEZH",
  "eWITH RETROFLEX HOOKdTURNED YfWITH BELTdO WITH STROKEdCAPITAL OEdCLOSED OMEGAdQ",
  "dTURNED R WITH LONG LEGiAND RETROFLEX HOOKdR WITH TAILfFISHHOOKdCAPITAL RdTC DIGRAPH WITH CURL",
  "dTS DIGRAPHfWITH RETROFLEX HOOKdTESH DIGRAPHdT WITH RETROFLEX HOOKdV WITH RIGHT HOOK/107B2",
  "dCAPITAL YcGLOTTAL STOP WITH STROKEcREVERSED GLOTTAL STOP WITH STROKEcBILABIAL CLICK",
  "cDENTAL CLICKcLATERAL CLICKcALVEOLAR CLICKcRETROFLEX CLICK WITH RETROFLEX HOOK",
  "cSMALL S WITH CURL/10800aCYPRIOT SYLLABLE AcEcIcOcUcJA/10808cJO/1080AcKAcKEcKIcKOcKUcLAcLEcLI",
  "cLOcLUcMAcMEcMIcMOcMUcNAcNEcNIcNOcNUcPAcPEcPIcPOcPUcRAcREcRIcROcRUcSAcSEcSIcSOcSUcTAcTEcTIcTO",
  "cTUcWAcWEcWIcWO/10837cXAcXE/1083CcZA/1083FcZOaIMPERIAL ARAMAIC LETTER ALEPHdBETHdGIMELdDALETH",
  "dHEdWAWdZAYINdHETHdTETHdYODHdKAPHdLAMEDHdMEMdNUNdSAMEKHdAYINdPEdSADHEdQOPHdRESHdSHINdTAW/10857",
  "cSECTION SIGNcNUMBER ONEdTWOdTHREEdTENdTWENTYdONE HUNDREDeTHOUSANDdTEN THOUSAND",
  "aPALMYRENE LETTER ALEPHcBETHcGIMELcDALETHcHEcWAWcZAYINcHETHcTETHcYODHcKAPHcLAMEDHcMEM",
  "cFINAL NUNcNUNcSAMEKHcAYINcPEcSADHEcQOPHcRESHcSHINcTAWbLEFT-POINTING FLEURON",
  "bRIGHT-POINTING FLEURONbNUMBER ONEcTWOcTHREEcFOURcFIVEcTENcTWENTYaNABATAEAN LETTER FINAL ALEPH",
  "cALEPHcFINAL BETHcBETHcGIMELcDALETHcFINAL HEcHEcWAWcZAYINcHETHcTETHcFINAL YODHcYODHcFINAL KAPH",
  "cKAPHcFINAL LAMEDHcLAMEDHcFINAL MEMcMEMcFINAL NUNcNUNcSAMEKHcAYINcPEcSADHEcQOPHcRESH",
  "cFINAL SHINcSHINcTAW/108A7bNUMBER ONEcTWOcTHREEcFOURbCRUCIFORM NUMBER FOURbNUMBER FIVEcTEN",
  "cTWENTYcONE HUNDRED/108E0aHATRAN LETTER ALEPHcBETHcGIMELcDALETH-RESHcHEcWAWcZAYNcHETHcTETH",
  "cYODHcKAPHcLAMEDHcMEMcNUNcSAMEKHcAYNcPEcSADHEcQOPH/108F4cSHINcTAW/108FBbNUMBER ONEcFIVEcTEN",
  "cTWENTYcONE HUNDREDaPHOENICIAN LETTER ALFcBETcGAMLcDELTcHEcWAUcZAIcHETcTETcYODcKAFcLAMDcMEM",
  "cNUNcSEMKcAINcPEcSADEcQOFcROSHcSHINcTAUbNUMBER ONEcTENcTWENTYcONE HUNDREDcTWOcTHREE/1091F",
  "bWORD SEPARATORaLYDIAN LETTER AcBcGcDcEcVcIcYcKcLcMcNcOcRcSScTcUcFcQcScTTcANcENcLYcNNcC/1093F",
  "bTRIANGULAR MARK/10980aMEROITIC HIEROGLYPHIC LETTER AdEdIdOdYAdWAdBAdBA-2dPAdMAdNAdNA-2dNE",
  "dNE-2dRAdRA-2dLAdKHAdHHAdSAdSA-2dSEdKAdQAdTAdTA-2dTEdTE-2dTOdDAcSYMBOL VIDJdVIDJ-2",
  "bCURSIVE LETTER AdEdIdOdYAdWAdBAdPAdMAdNAdNEdRAdLAdKHAdHHAdSAdARCHAIC SAdSEdKAdQAdTAdTEdTOdDA",
  "/109BCcFRACTION ELEVEN TWELFTHSdONE HALFcLOGOGRAM RMTdIMNcNUMBER ONEdTWOdTHREEdFOURdFIVEdSIX",
  "dSEVENdEIGHTdNINEdTENdTWENTYdTHIRTYdFORTYdFIFTYdSIXTYdSEVENTY/109D2dONE HUNDREDdTWO HUNDRED",
  "dTHREE HUNDREDdFOUR HUNDREDdFIVE HUNDREDdSIX HUNDREDdSEVEN HUNDREDdEIGHT HUNDREDdNINE HUNDRED",
  "dONE THOUSANDdTWO THOUSANDdTHREE THOUSANDdFOUR THOUSANDdFIVE THOUSANDdSIX THOUSAND",
  "dSEVEN THOUSANDdEIGHT THOUSANDdNINE THOUSANDdTEN THOUSANDdTWENTY THOUSANDdTHIRTY THOUSAND",
  "dFORTY THOUSANDdFIFTY THOUSANDdSIXTY THOUSANDdSEVENTY THOUSANDdEIGHTY THOUSANDdNINETY THOUSAND",
  "dONE HUNDRED THOUSANDdTWO HUNDRED THOUSANDdTHREE HUNDRED THOUSANDdFOUR HUNDRED THOUSAND",
  "dFIVE HUNDRED THOUSANDdSIX HUNDRED THOUSANDdSEVEN HUNDRED THOUSANDdEIGHT HUNDRED THOUSAND",
  "dNINE HUNDRED THOUSANDcFRACTION ONE TWELFTHdTWO TWELFTHSdTHREE TWELFTHSdFOUR TWELFTHS",
  "dFIVE TWELFTHSdSIX TWELFTHSdSEVEN TWELFTHSdEIGHT TWELFTHSdNINE TWELFTHSdTEN TWELFTHS",
  "aKHAROSHTHI LETTER AbVOWEL SIGN IdUdVOCALIC R/10A05dEdO/10A0CcLENGTH MARK",
  "bSIGN DOUBLE RING BELOWcANUSVARAcVISARGAbLETTER KAcKHAcGAcGHA/10A15cCAcCHAcJA/10A19cNYAcTTA",
  "cTTHAcDDAcDDHAcNNAcTAcTHAcDAcDHAcNAcPAcPHAcBAcBHAcMAcYAcRAcLAcVAcSHAcSSAcSAcZAcHAcKKAcTTTHA",
  "cTTTAcVHA/10A38bSIGN BAR ABOVEcCAUDAcDOT BELOW/10A3FbVIRAMAbDIGIT ONEcTWOcTHREEcFOUR",
  "bNUMBER TENcTWENTYcONE HUNDREDdTHOUSANDbFRACTION ONE HALF/10A50bPUNCTUATION DOTcSMALL CIRCLE",
  "cCIRCLEcCRESCENT BARcMANGALAMcLOTUScDANDAcDOUBLE DANDAcLINES/10A60aOLD SOUTH ARABIAN LETTER HE",
  "eLAMEDHeHETHeMEMeQOPHeWAWeSHINeRESHeBETHeTAWeSATeKAPHeNUNeKHETHeSADHEeSAMEKHeFEeALEFeAYN",
  "eDHADHEeGIMELeDALETHeGHAYNeTETHeZAYNeDHALETHeYODHeTHAWeTHETHdNUMBER ONEeFIFTY",
  "dNUMERIC INDICATORbNORTH ARABIAN LETTER HEHeLAMeHAHeMEEMeQAFeWAWeES-2eREHeBEHeTEHeES-1eKAF",
  "eNOONeKHAHeSADeES-3eFEHeALEFeAINeDADeGEEMeDALeGHAINeTAHeZAINeTHALeYEHeTHEHeZAHdNUMBER ONEeTEN",
  "eTWENTY/10AC0aMANICHAEAN LETTER ALEPHcBETHcBHETHcGIMELcGHIMELcDALETHcHEcWAWbSIGN UD",
  "bLETTER ZAYINcZHAYINcJAYINcJHAYINcHETHcTETHcYODHcKAPHcXAPHcKHAPHcLAMEDHcDHAMEDHcTHAMEDHcMEM",
  "cNUNcSAMEKHcAYINcAAYINcPEcFEcSADHEcQOPHcXOPHcQHOPHcRESHcSHINcSSHINcTAWbABBREVIATION MARK ABOVE",
  "dBELOW/10AEBbNUMBER ONEcFIVEcTENcTWENTYcONE HUNDREDbPUNCTUATION STARcFLEURON",
  "cDOUBLE DOT WITHIN DOTcDOT WITHIN DOTcDOTcTWO DOTScLINE FILLER/10B00aAVESTAN LETTER AcAAcAO",
  "cAAOcANcAANcAEcAEEcEcEEcOcOOcIcIIcUcUUcKEcXEcXYEcXVEcGEcGGEcGHEcCEcJEcTEcTHEcDEcDHEcTTEcPEcFE",
  "cBEcBHEcNGEcNGYEcNGVEcNEcNYEcNNEcMEcHMEcYYEcYEcVEcREcLEcSEcZEcSHEcZHEcSHYEcSSHEcHE/10B39",
  "bABBREVIATION MARKaTINY TWO DOTS OVER ONE DOT PUNCTUATION",
  "aSMALL TWO DOTS OVER ONE DOT PUNCTUATIONaLARGE TWO DOTS OVER ONE DOT PUNCTUATION",
  "bONE DOT OVER TWO DOTS PUNCTUATIONbTWO RINGS OVER ONE RING PUNCTUATION",
  "bONE RING OVER TWO RINGS PUNCTUATIONaINSCRIPTIONAL PARTHIAN LETTER ALEPHdBETHdGIMELdDALETHdHE",
  "dWAWdZAYINdHETHdTETHdYODHdKAPHdLAMEDHdMEMdNUNdSAMEKHdAYINdPEdSADHEdQOPHdRESHdSHINdTAW/10B58",
  "cNUMBER ONEdTWOdTHREEdFOURdTENdTWENTYdONE HUNDREDeTHOUSANDbPAHLAVI LETTER ALEPHdBETHdGIMEL",
  "dDALETHdHEdWAW-AYIN-RESHdZAYINdHETHdTETHdYODHdKAPHdLAMEDHdMEM-QOPHdNUNdSAMEKHdPEdSADHEdSHIN",
  "dTAW/10B78cNUMBER ONEdTWOdTHREEdFOURdTENdTWENTYdONE HUNDREDeTHOUSAND",
  "aPSALTER PAHLAVI LETTER ALEPHdBETHdGIMELdDALETHdHEdWAW-AYIN-RESHdZAYINdHETHdYODHdKAPHdLAMEDH",
  "dMEM-QOPHdNUNdSAMEKHdPEdSADHEdSHINdTAW/10B99cSECTION MARKcTURNED SECTION MARK",
  "cFOUR DOTS WITH CROSSfDOT/10BA9cNUMBER ONEdTWOdTHREEdFOURdTENdTWENTYdONE HUNDRED/10C00",
  "aOLD TURKIC LETTER ORKHON AdYENISEI AeAEdORKHON IdYENISEI IeEdORKHON OeOEdYENISEI OEdORKHON AB",
  "dYENISEI ABdORKHON AEBdYENISEI AEBdORKHON AGdYENISEI AGdORKHON AEGdYENISEI AEGdORKHON AD",
  "dYENISEI ADdORKHON AEDeEZdYENISEI EZdORKHON AYdYENISEI AYdORKHON AEYdYENISEI AEYdORKHON AEK",
  "dYENISEI AEKdORKHON OEKdYENISEI OEKdORKHON ALdYENISEI ALdORKHON AELeELTeEMeANeAENdYENISEI AEN",
  "dORKHON ENTdYENISEI ENTdORKHON ENCdYENISEI ENCdORKHON ENYdYENISEI ENYeANGdORKHON ENG",
  "dYENISEI AENGdORKHON EPeOPeICeECdYENISEI ECdORKHON AQdYENISEI AQdORKHON IQdYENISEI IQ",
  "dORKHON OQdYENISEI OQdORKHON ARdYENISEI ARdORKHON AEReASeAESeASHdYENISEI ASHdORKHON ESH",
  "dYENISEI ESHdORKHON ATdYENISEI ATdORKHON AETdYENISEI AETdORKHON OTeBASH/10C80",
  "bHUNGARIAN CAPITAL LETTER AeAAeEBeAMBeECeENCeECSeEDeANDeEeCLOSE EeEEeEFeEGeEGYeEHeIeIIeEJeEK",
  "eAKeUNKeELeELYeEMeENeENYeOeOOeNIKOLSBURG OEeRUDIMENTA OEeOEEeEPeEMPeEReSHORT EReESeESZeETeENT",
  "eETYeECHeUeUUeNIKOLSBURG UEeRUDIMENTA UEeEVeEZeEZSeENT-SHAPED SIGNeUS/10CC0cSMALL LETTER AeAA",
  "eEBeAMBeECeENCeECSeEDeANDeEeCLOSE EeEEeEFeEGeEGYeEHeIeIIeEJeEKeAKeUNKeELeELYeEMeENeENYeOeOO",
  "eNIKOLSBURG OEeRUDIMENTA OEeOEEeEPeEMPeEReSHORT EReESeESZeETeENTeETYeECHeUeUUeNIKOLSBURG UE",
  "eRUDIMENTA UEeEVeEZeEZSeENT-SHAPED SIGNeUS/10CFAcNUMBER ONEdFIVEdTENdFIFTYdONE HUNDRED",
  "eTHOUSANDaHANIFI ROHINGYA LETTER AdBAdPAdTAdTTAdJAdCAdHAdKHAdFAdDAdDDAdRAdRRAdZAdSAdSHAdKAdGA",
  "dLAdMAdNAdWAdKINNA WAdYAdKINNA YAdNGAdNYAdVAcVOWEL AdIdUdEdOcMARK SAKINdNA KHONNA",
  "cSIGN HARBAHAYdTAHALAdTANAdTASSI/10D30cDIGIT ZEROdONEdTWOdTHREEdFOURdFIVEdSIXdSEVENdEIGHTdNINE",
  "/10E60aRUMI DIGIT ONEcTWOcTHREEcFOURcFIVEcSIXcSEVENcEIGHTcNINEbNUMBER TENcTWENTYcTHIRTYcFORTY",
  "cFIFTYcSIXTYcSEVENTYcEIGHTYcNINETYcONE HUNDREDcTWO HUNDREDcTHREE HUNDREDcFOUR HUNDRED",
  "cFIVE HUNDREDcSIX HUNDREDcSEVEN HUNDREDcEIGHT HUNDREDcNINE HUNDREDbFRACTION ONE HALFdQUARTER",
  "dTHIRDcTWO THIRDS/10E80aYEZIDI LETTER ELIFcBEcPEcPHEcTHEcSEcCIMcCHIMcCHHIMcHHAcXAcDALcZALcRA",
  "cRHAcZAcJAcSINcSHINcSADcDADcTAcZEcEYNcXHEYNcFAcVAdALTERNATE FORMcQAFcKAFcKHAFcGAFcLAMcMIMcNUN",
  "cUMcWAWcOWcEWcHAYcYOTcET/10EABbCOMBINING HAMZA MARKcMADDA MARKbHYPHENATION MARK/10EB0",
  "bLETTER LAM WITH DOT ABOVEcYOT WITH CIRCUMFLEX ABOVE/10EFDaARABIC SMALL LOW WORD SAKTAeQASR",
  "eMADDAaOLD SOGDIAN LETTER ALEPHdFINAL ALEPHdBETHdFINAL BETHdGIMELdHEdFINAL HEdWAWdZAYINdHETH",
  "dYODHdKAPHdLAMEDHdMEMdNUNdFINAL NUNfWITH VERTICAL TAILdSAMEKHdAYINdALTERNATE AYINdPEdSADHE",
  "dFINAL SADHEfWITH VERTICAL TAILdRESH-AYIN-DALETHdSHINdTAWdFINAL TAWfWITH VERTICAL TAIL",
  "cNUMBER ONEdTWOdTHREEdFOURdFIVEdTENdTWENTYdTHIRTYdONE HUNDREDcFRACTION ONE HALF",
  "cLIGATURE AYIN-DALETH/10F30aSOGDIAN LETTER ALEPHcBETHcGIMELcHEcWAWcZAYINcHETHcYODHcKAPHcLAMEDH",
  "cMEMcNUNcSAMEKHcAYINcPEcSADHEcRESH-AYINcSHINcTAWcFETHcLESHbINDEPENDENT SHIN",
  "bCOMBINING DOT BELOWcTWO DOTS BELOWcDOT ABOVEcTWO DOTS ABOVEcCURVE ABOVEdBELOWcHOOK ABOVE",
  "dBELOWcLONG HOOK BELOWcRESH BELOWcSTROKE BELOWbNUMBER ONEcTENcTWENTYcONE HUNDRED",
  "bPUNCTUATION TWO VERTICAL BARSfWITH DOTScCIRCLE WITH DOTcTWO CIRCLES WITH DOTS",
  "cHALF CIRCLE WITH DOT/10F70aOLD UYGHUR LETTER ALEPHdBETHdGIMEL-HETHdWAWdZAYINdFINAL HETHdYODH",
  "dKAPHdLAMEDHdMEMdNUNdSAMEKHdPEdSADHEdRESHdSHINdTAWdLESHcCOMBINING DOT ABOVEeBELOW",
  "dTWO DOTS ABOVEfBELOWcPUNCTUATION BARdTWO BARSeDOTSdFOUR DOTS/10FB0aCHORASMIAN LETTER ALEPH",
  "cSMALL ALEPHcBETHcGIMELcDALETHcHEcWAWcCURLED WAWcZAYINcHETHcYODHcKAPHcLAMEDHcMEMcNUNcSAMEKH",
  "cAYINcPEcRESHcSHINcTAWbNUMBER ONEcTWOcTHREEcFOURcTENcTWENTYcONE HUNDRED/10FE0",
  "aELYMAIC LETTER ALEPHcBETHcGIMELcDALETHcHEcWAWcZAYINcHETHcTETHcYODHcKAPHcLAMEDHcMEMcNUNcSAMEKH",
  "cAYINcPEcSADHEcQOPHcRESHcSHINcTAWbLIGATURE ZAYIN-YODH/11000aBRAHMI SIGN CANDRABINDUcANUSVARA",
  "cVISARGAcJIHVAMULIYAcUPADHMANIYAbLETTER AcAAcIcIIcUcUUcVOCALIC RdRRdLdLLcEcAIcOcAUcKAcKHAcGA",
  "cGHAcNGAcCAcCHAcJAcJHAcNYAcTTAcTTHAcDDAcDDHAcNNAcTAcTHAcDAcDHAcNAcPAcPHAcBAcBHAcMAcYAcRAcLAcVA",
  "cSHAcSSAcSAcHAcLLAcOLD TAMIL LLLAeRRAeNNNAbVOWEL SIGN AAdBHATTIPROLU AAdIdIIdUdUUdVOCALIC ReRR",
  "eLeLLdEdAIdOdAUbVIRAMAbDANDAbDOUBLE DANDAbPUNCTUATION DOTcDOUBLE DOTcLINEcCRESCENT BARcLOTUS",
  "/11052bNUMBER ONEcTWOcTHREEcFOURcFIVEcSIXcSEVENcEIGHTcNINEcTENcTWENTYcTHIRTYcFORTYcFIFTYcSIXTY",
  "cSEVENTYcEIGHTYcNINETYcONE HUNDREDdTHOUSANDbDIGIT ZEROcONEcTWOcTHREEcFOURcFIVEcSIXcSEVENcEIGHT",
  "cNINEbSIGN OLD TAMIL VIRAMAbLETTER OLD TAMIL SHORT EfObVOWEL SIGN OLD TAMIL SHORT EgO",
  "bLETTER OLD TAMIL LLA/1107FbNUMBER JOINERaKAITHI SIGN CANDRABINDUcANUSVARAcVISARGAbLETTER AcAA",
  "cIcIIcUcUUcEcAIcOcAUcKAcKHAcGAcGHAcNGAcCAcCHAcJAcJHAcNYAcTTAcTTHAcDDAcDDDHAcDDHAcRHAcNNAcTA",
  "cTHAcDAcDHAcNAcPAcPHAcBAcBHAcMAcYAcRAcLAcVAcSHAcSSAcSAcHAbVOWEL SIGN AAdIdIIdUdUUdEdAIdOdAU",
  "bSIGN VIRAMAcNUKTAbABBREVIATION SIGNbENUMERATION SIGNbNUMBER SIGNbSECTION MARK",
  "bDOUBLE SECTION MARKbDANDAbDOUBLE DANDAbVOWEL SIGN VOCALIC R/110CDbNUMBER SIGN ABOVE/110D0",
  "aSORA SOMPENG LETTER SAHdTAHdBAHdCAHdDAHdGAHdMAHdNGAHdLAHdNAHdVAHdPAHdYAHdRAHdHAHdKAHdJAHdNYAH",
  "dAHdEEHdIHdUHdOHdEHdMAE/110F0cDIGIT ZEROdONEdTWOdTHREEdFOURdFIVEdSIXdSEVENdEIGHTdNINE/11100",
  "aCHAKMA SIGN CANDRABINDUcANUSVARAcVISARGAbLETTER AAcIcUcEcKAAcKHAAcGAAcGHAAcNGAAcCAAcCHAAcJAA",
  "cJHAAcNYAAcTTAAcTTHAAcDDAAcDDHAAcNNAAcTAAcTHAAcDAAcDHAAcNAAcPAAcPHAAcBAAcBHAAcMAAcYYAAcYAAcRAA",
  "cLAAcWAAcSAAcHAAbVOWEL SIGN AdIdIIdUdUUdEdAIdOdAUdOIbO MARKbAU MARKbVIRAMAbMAAYYAA/11136",
  "bDIGIT ZEROcONEcTWOcTHREEcFOURcFIVEcSIXcSEVENcEIGHTcNINEbSECTION MARKbDANDAbDOUBLE DANDA",
  "bQUESTION MARKbLETTER LHAAbVOWEL SIGN AAdEIbLETTER VAA/11150aMAHAJANI LETTER AcIcUcEcOcKAcKHA",
  "cGAcGHAcCAcCHAcJAcJHAcNYAcTTAcTTHAcDDAcDDHAcNNAcTAcTHAcDAcDHAcNAcPAcPHAcBAcBHAcMAcRAcLAcVAcSA",
  "cHAcRRAbSIGN NUKTAbABBREVIATION SIGNbSECTION MARKbLIGATURE SHRI/11180aSHARADA SIGN CANDRABINDU",
  "cANUSVARAcVISARGAbLETTER AcAAcIcIIcUcUUcVOCALIC RdRRdLdLLcEcAIcOcAUcKAcKHAcGAcGHAcNGAcCAcCHA",
  "cJAcJHAcNYAcTTAcTTHAcDDAcDDHAcNNAcTAcTHAcDAcDHAcNAcPAcPHAcBAcBHAcMAcYAcRAcLAcLLAcVAcSHAcSSAcSA",
  "cHAbVOWEL SIGN AAdIdIIdUdUUdVOCALIC ReRReLeLLdEdAIdOdAUbSIGN VIRAMAcAVAGRAHAcJIHVAMULIYA",
  "cUPADHMANIYAbOMbDANDAbDOUBLE DANDAbABBREVIATION SIGNbSEPARATORbSANDHI MARKbSIGN NUKTA",
  "bVOWEL MODIFIER MARKbEXTRA SHORT VOWEL MARKbSUTRA MARKbVOWEL SIGN PRISHTHAMATRA E",
  "bSIGN INVERTED CANDRABINDUbDIGIT ZEROcONEcTWOcTHREEcFOURcFIVEcSIXcSEVENcEIGHTcNINEbEKAM",
  "bSIGN SIDDHAMbHEADSTROKEbCONTINUATION SIGNbSECTION MARK-1cMARK-2/111E1",
  "aSINHALA ARCHAIC DIGIT ONEdTWOdTHREEdFOURdFIVEdSIXdSEVENdEIGHTdNINEcNUMBER TENdTWENTYdTHIRTY",
  "dFORTYdFIFTYdSIXTYdSEVENTYdEIGHTYdNINETYdONE HUNDREDeTHOUSAND/11200aKHOJKI LETTER AcAAcIcUcE",
  "cAIcOcAUcKAcKHAcGAcGGAcGHAcNGAcCAcCHAcJAcJJA/11213cNYAcTTAcTTHAcDDAcDDHAcNNAcTAcTHAcDAcDDDA",
  "cDHAcNAcPAcPHAcBAcBBAcBHAcMAcYAcRAcLAcVAcSAcHAcLLAbVOWEL SIGN AAdIdIIdUdEdAIdOdAU",
  "bSIGN ANUSVARAcVIRAMAcNUKTAcSHADDAbDANDAbDOUBLE DANDAbWORD SEPARATORbSECTION MARK",
  "bDOUBLE SECTION MARKbABBREVIATION SIGNbSIGN SUKUNbLETTER QAcSHORT IbVOWEL SIGN VOCALIC R/11280",
  "aMULTANI LETTER AcIcUcEcKAcKHAcGA/11288cGHA/1128AcCAcCHAcJAcJJA/1128FcNYAcTTAcTTHAcDDAcDDDA",
  "cDDHAcNNAcTAcTHAcDAcDHAcNAcPAcPHAcBA/1129FcBHAcMAcYAcRAcLAcVAcSAcHAcRRAcRHAbSECTION MARK/112B0",
  "aKHUDAWADI LETTER AcAAcIcIIcUcUUcEcAIcOcAUcKAcKHAcGAcGGAcGHAcNGAcCAcCHAcJAcJJAcJHAcNYAcTTA",
  "cTTHAcDDAcDDDAcRRAcDDHAcNNAcTAcTHAcDAcDHAcNAcPAcPHAcBAcBBAcBHAcMAcYAcRAcLAcVAcSHAcSAcHA",
  "bSIGN ANUSVARAbVOWEL SIGN AAdIdIIdUdUUdEdAIdOdAUbSIGN NUKTAcVIRAMA/112F0bDIGIT ZEROcONEcTWO",
  "cTHREEcFOURcFIVEcSIXcSEVENcEIGHTcNINE/11300aGRANTHA SIGN COMBINING ANUSVARA ABOVEcCANDRABINDU",
  "cANUSVARAcVISARGA/11305bLETTER AcAAcIcIIcUcUUcVOCALIC RdL/1130FcEEcAI/11313cOOcAUcKAcKHAcGA",
  "cGHAcNGAcCAcCHAcJAcJHAcNYAcTTAcTTHAcDDAcDDHAcNNAcTAcTHAcDAcDHAcNA/1132AcPAcPHAcBAcBHAcMAcYAcRA",
  "/11332cLAcLLA/11335cVAcSHAcSSAcSAcHA/1133BaCOMBINING BINDU BELOWaGRANTHA SIGN NUKTAcAVAGRAHA",
  "bVOWEL SIGN AAdIdIIdUdUUdVOCALIC ReRR/11347dEEdAI/1134BdOOdAUbSIGN VIRAMA/11350bOM/11357",
  "bAU LENGTH MARK/1135DbSIGN PLUTAbLETTER VEDIC ANUSVARAdDOUBLE ANUSVARAcVOCALIC RRdLL",
  "bVOWEL SIGN VOCALIC LeLL/11366aCOMBINING GRANTHA DIGIT ZEROdONEdTWOdTHREEdFOURdFIVEdSIX/11370",
  "cLETTER AdKAdNAdVIdPA/11400aNEWA LETTER AcAAcIcIIcUcUUcVOCALIC RdRRdLdLLcEcAIcOcAUcKAcKHAcGA",
  "cGHAcNGAcNGHAcCAcCHAcJAcJHAcNYAcNYHAcTTAcTTHAcDDAcDDHAcNNAcTAcTHAcDAcDHAcNAcNHAcPAcPHAcBAcBHA",
  "cMAcMHAcYAcRAcRHAcLAcLHAcWAcSHAcSSAcSAcHAbVOWEL SIGN AAdIdIIdUdUUdVOCALIC ReRReLeLLdEdAIdOdAU",
  "bSIGN VIRAMAcCANDRABINDUcANUSVARAcVISARGAcNUKTAcAVAGRAHAcFINAL ANUSVARAbOMbSIDDHIbDANDA",
  "bDOUBLE DANDAbCOMMAbGAP FILLERbABBREVIATION SIGNbDIGIT ZEROcONEcTWOcTHREEcFOURcFIVEcSIXcSEVEN",
  "cEIGHTcNINEbDOUBLE COMMAbPLACEHOLDER MARK/1145DbINSERTION SIGNbSANDHI MARK",
  "bLETTER VEDIC ANUSVARAbSIGN JIHVAMULIYAcUPADHMANIYA/11480aTIRHUTA ANJIbLETTER AcAAcIcIIcUcUU",
  "cVOCALIC RdRRdLdLLcEcAIcOcAUcKAcKHAcGAcGHAcNGAcCAcCHAcJAcJHAcNYAcTTAcTTHAcDDAcDDHAcNNAcTAcTHA",
  "cDAcDHAcNAcPAcPHAcBAcBHAcMAcYAcRAcLAcVAcSHAcSSAcSAcHAbVOWEL SIGN AAdIdIIdUdUUdVOCALIC ReRReL",
  "eLLdEdSHORT EdAIdOdSHORT OdAUbSIGN CANDRABINDUcANUSVARAcVISARGAcVIRAMAcNUKTAcAVAGRAHAbGVANG",
  "bABBREVIATION SIGNbOM/114D0bDIGIT ZEROcONEcTWOcTHREEcFOURcFIVEcSIXcSEVENcEIGHTcNINE/11580",
  "aSIDDHAM LETTER AcAAcIcIIcUcUUcVOCALIC RdRRdLdLLcEcAIcOcAUcKAcKHAcGAcGHAcNGAcCAcCHAcJAcJHAcNYA",
  "cTTAcTTHAcDDAcDDHAcNNAcTAcTHAcDAcDHAcNAcPAcPHAcBAcBHAcMAcYAcRAcLAcVAcSHAcSSAcSAcHA",
  "bVOWEL SIGN AAdIdIIdUdUUdVOCALIC ReRR/115B8dEdAIdOdAUbSIGN CANDRABINDUcANUSVARAcVISARGAcVIRAMA",
  "cNUKTAcSIDDHAMbDANDAbDOUBLE DANDAbSEPARATOR DOTcBARbREPETITION MARK-1cMARK-2cMARK-3",
  "bEND OF TEXT MARKbSECTION MARK WITH TRIDENT AND U-SHAPED ORNAMENTSgDOTTED CRESCENTS",
  "eRAYS AND DOTTED CRESCENTShDOUBLE CRESCENTShTRIPLE CRESCENTSdDOUBLE RINGfWITH RAYS",
  "dWITH DOUBLE CRESCENTSeTRIPLE CRESCENTSeQUADRUPLE CRESCENTSeSEPTUPLE CRESCENTS",
  "eCIRCLES AND RAYSgTWO ENCLOSURESgFOUR ENCLOSURESbLETTER THREE-CIRCLE ALTERNATE I",
  "cTWO-CIRCLE ALTERNATE IeIIcALTERNATE UbVOWEL SIGN ALTERNATE UeUU/11600aMODI LETTER AcAAcIcIIcU",
  "cUUcVOCALIC RdRRdLdLLcEcAIcOcAUcKAcKHAcGAcGHAcNGAcCAcCHAcJAcJHAcNYAcTTAcTTHAcDDAcDDHAcNNAcTA",
  "cTHAcDAcDHAcNAcPAcPHAcBAcBHAcMAcYAcRAcLAcVAcSHAcSSAcSAcHAcLLAbVOWEL SIGN AAdIdIIdUdUU",
  "dVOCALIC ReRReLeLLdEdAIdOdAUbSIGN ANUSVARAcVISARGAcVIRAMAcARDHACANDRAbDANDAbDOUBLE DANDA",
  "bABBREVIATION SIGNbSIGN HUVA/11650bDIGIT ZEROcONEcTWOcTHREEcFOURcFIVEcSIXcSEVENcEIGHTcNINE",
  "/11660aMONGOLIAN BIRGA WITH ORNAMENTbROTATED BIRGAbDOUBLE BIRGA WITH ORNAMENT",
  "bTRIPLE BIRGA WITH ORNAMENTbBIRGA WITH DOUBLE ORNAMENTbROTATED BIRGA WITH ORNAMENT",
  "eDOUBLE ORNAMENTbINVERTED BIRGAdWITH DOUBLE ORNAMENTbSWIRL BIRGAdWITH ORNAMENTeDOUBLE ORNAMENT",
  "bTURNED SWIRL BIRGA WITH DOUBLE ORNAMENT/11680aTAKRI LETTER AcAAcIcIIcUcUUcEcAIcOcAUcKAcKHAcGA",
  "cGHAcNGAcCAcCHAcJAcJHAcNYAcTTAcTTHAcDDAcDDHAcNNAcTAcTHAcDAcDHAcNAcPAcPHAcBAcBHAcMAcYAcRAcLAcVA",
  "cSHAcSAcHAcRRAbSIGN ANUSVARAcVISARGAbVOWEL SIGN AAdIdIIdUdUUdEdAIdOdAUbSIGN VIRAMAcNUKTA",
  "bLETTER ARCHAIC KHAbABBREVIATION SIGN/116C0bDIGIT ZEROcONEcTWOcTHREEcFOURcFIVEcSIXcSEVENcEIGHT",
  "cNINE/11700aAHOM LETTER KAcKHAcNGAcNAcTAcALTERNATE TAcPAcPHAcBAcMAcJAcCHAcTHAcRAcLAcSAcNYAcHA",
  "cAcDAcDHAcGAcALTERNATE GAcGHAcBHAcJHAcALTERNATE BA/1171DbCONSONANT SIGN MEDIAL LAeRA",
  "eLIGATING RAbVOWEL SIGN AdAAdIdIIdUdUUdEdAWdOdAIdAMbSIGN KILLER/11730bDIGIT ZEROcONEcTWOcTHREE",
  "cFOURcFIVEcSIXcSEVENcEIGHTcNINEbNUMBER TENcTWENTYbSIGN SMALL SECTIONcSECTIONcRULAIbSYMBOL VI",
  "bLETTER CAcTTAcTTHAcDDAcDDHAcNNAcLLA/11800aDOGRA LETTER AcAAcIcIIcUcUUcEcAIcOcAUcKAcKHAcGAcGHA",
  "cNGAcCAcCHAcJAcJHAcNYAcTTAcTTHAcDDAcDDHAcNNAcTAcTHAcDAcDHAcNAcPAcPHAcBAcBHAcMAcYAcRAcLAcVAcSHA",
  "cSSAcSAcHAcRRAbVOWEL SIGN AAdIdIIdUdUUdVOCALIC ReRRdEdAIdOdAUbSIGN ANUSVARAcVISARGAcVIRAMA",
  "cNUKTAbABBREVIATION SIGN/118A0aWARANG CITI CAPITAL LETTER NGAAeAeWIeYUeYAeYOeIIeUUeEeOeANGeGA",
  "eKOeENYeYUJeUCeENNeODDeTTEeNUNGeDAeATeAMeBUePUeHIYOeHOLOeHORReHAReSSUUeSIIeVIYO",
  "cSMALL LETTER NGAAeAeWIeYUeYAeYOeIIeUUeEeOeANGeGAeKOeENYeYUJeUCeENNeODDeTTEeNUNGeDAeATeAMeBU",
  "ePUeHIYOeHOLOeHORReHAReSSUUeSIIeVIYOcDIGIT ZEROdONEdTWOdTHREEdFOURdFIVEdSIXdSEVENdEIGHTdNINE",
  "cNUMBER TENdTWENTYdTHIRTYdFORTYdFIFTYdSIXTYdSEVENTYdEIGHTYdNINETY/118FFcOM",
  "aDIVES AKURU LETTER AdAAdIdIIdUdUUdE/11909dO/1190CdKAdKHAdGAdGHAdNGAdCAdCHAdJA/11915dNYAdTTA",
  "/11918dDDAdDDHAdNNAdTAdTHAdDAdDHAdNAdPAdPHAdBAdBHAdMAdYAdYYAdRAdLAdVAdSHAdSSAdSAdHAdLLAdZA",
  "cVOWEL SIGN AAeIeIIeUeUUeE/11937eAIeO/1193BcSIGN ANUSVARAdCANDRABINDUdHALANTAcVIRAMA",
  "cPREFIXED NASAL SIGNcMEDIAL YAcINITIAL RAcMEDIAL RAcSIGN NUKTAcDOUBLE DANDAcGAP FILLER",
  "cEND OF TEXT MARK/11950cDIGIT ZEROdONEdTWOdTHREEdFOURdFIVEdSIXdSEVENdEIGHTdNINE/119A0",
  "aNANDINAGARI LETTER AcAAcIcIIcUcUUcVOCALIC RdRR/119AAcEcAIcOcAUcKAcKHAcGAcGHAcNGAcCAcCHAcJA",
  "cJHAcNYAcTTAcTTHAcDDAcDDHAcNNAcTAcTHAcDAcDHAcNAcPAcPHAcBAcBHAcMAcYAcRAcLAcVAcSHAcSSAcSAcHAcLLA",
  "cRRAbVOWEL SIGN AAdIdIIdUdUUdVOCALIC ReRR/119DAdEdAIdOdAUbSIGN ANUSVARAcVISARGAcVIRAMA",
  "cAVAGRAHAcSIDDHAMbHEADSTROKEbVOWEL SIGN PRISHTHAMATRA E/11A00aZANABAZAR SQUARE LETTER A",
  "cVOWEL SIGN IeUEeUeEeOEeOeAIeAUeREVERSED IdLENGTH MARKcLETTER KAdKHAdGAdGHAdNGAdCAdCHAdJAdNYA",
  "dTTAdTTHAdDDAdDDHAdNNAdTAdTHAdDAdDHAdNAdPAdPHAdBAdBHAdMAdTSAdTSHAdDZAdDZHAdZHAdZAd-AdYAdRAdLA",
  "dVAdSHAdSSAdSAdHAdKSSAcFINAL CONSONANT MARKcSIGN VIRAMAdCANDRABINDUeWITH ORNAMENT",
  "dCANDRA WITH ORNAMENTdANUSVARAdVISARGAcCLUSTER-INITIAL LETTER RAcCLUSTER-FINAL LETTER YAeRAeLA",
  "eVAcINITIAL HEAD MARKcCLOSING HEAD MARKcMARK TSHEGdSHADdDOUBLE SHADdLONG TSHEG",
  "cINITIAL DOUBLE-LINED HEAD MARKcCLOSING DOUBLE-LINED HEAD MARKcSUBJOINER/11A50",
  "aSOYOMBO LETTER AbVOWEL SIGN IdUEdUdEdOdOEdAIdAUdVOCALIC ReLcLENGTH MARKbLETTER KAcKHAcGAcGHA",
  "cNGAcCAcCHAcJAcJHAcNYAcTTAcTTHAcDDAcDDHAcNNAcTAcTHAcDAcDHAcNAcPAcPHAcBAcBHAcMAcTSAcTSHAcDZA",
  "cZHAcZAc-AcYAcRAcLAcVAcSHAcSSAcSAcHAcKSSAbSIGN JIHVAMULIYAcUPADHMANIYA",
  "bCLUSTER-INITIAL LETTER RAdLAdSHAdSAbFINAL CONSONANT SIGN GeKeNGeDeNeBeMeReLeSHeSe-A",
  "bSIGN ANUSVARAcVISARGAbGEMINATION MARKbSUBJOINERbMARK TSHEGcSHADcDOUBLE SHADcPLUTA",
  "bHEAD MARK WITH MOON AND SUN AND TRIPLE FLAMEiFLAMEgSUNbTERMINAL MARK-1cMARK-2/11AB0",
  "aCANADIAN SYLLABICS NATTILIK HIdHIIdHOdHOOdHAdHAAdSHRIdSHRIIdSHROdSHROOdSHRAdSHRAAcSPEcSPIcSPO",
  "cSPAaPAU CIN HAU LETTER PAeKAeLAeMAeDAeZAeVAeNGAeHAeGAeKHAeSAeBAeCAeTAeTHAeNAePHAeRAeFAeCHAeA",
  "eEeIeOeUeUAeIAeFINAL PfKfTfMfNfLfWfNGfYdRISING TONE LONGeTONEdSANDHI GLOTTAL STOP",
  "dRISING TONE LONG FINALfFINALdSANDHI GLOTTAL STOP FINALeTONE LONGeTONEfLONG FINALfFINAL",
  "dMID-LEVEL TONEdGLOTTAL STOP VARIANTdMID-LEVEL TONE LONG FINALfFINALdLOW-FALLING TONE LONG",
  "eTONEdGLOTTAL STOPdLOW-FALLING TONE LONG FINALfFINALdGLOTTAL STOP FINAL/11B00",
  "aDEVANAGARI HEAD MARKdWITH HEADSTROKEbSIGN BHALEdWITH HOOKcEXTENDED BHALEeWITH HOOK",
  "cWESTERN FIVE-LIKE BHALEdNINE-LIKE BHALEcREVERSED NINE-LIKE BHALEcMINDU/11C00",
  "aBHAIKSUKI LETTER AcAAcIcIIcUcUUcVOCALIC RdRRdL/11C0AcEcAIcOcAUcKAcKHAcGAcGHAcNGAcCAcCHAcJA",
  "cJHAcNYAcTTAcTTHAcDDAcDDHAcNNAcTAcTHAcDAcDHAcNAcPAcPHAcBAcBHAcMAcYAcRAcLAcVAcSHAcSSAcSAcHA",
  "bVOWEL SIGN AAdIdIIdUdUUdVOCALIC ReRReL/11C38dEdAIdOdAUbSIGN CANDRABINDUcANUSVARAcVISARGA",
  "cVIRAMAcAVAGRAHAbDANDAbDOUBLE DANDAbWORD SEPARATORbGAP FILLER-1cFILLER-2/11C50bDIGIT ZEROcONE",
  "cTWOcTHREEcFOURcFIVEcSIXcSEVENcEIGHTcNINEbNUMBER ONEcTWOcTHREEcFOURcFIVEcSIXcSEVENcEIGHTcNINE",
  "cTENcTWENTYcTHIRTYcFORTYcFIFTYcSIXTYcSEVENTYcEIGHTYcNINETYbHUNDREDS UNIT MARK/11C70",
  "aMARCHEN HEAD MARKbMARK SHADbLETTER KAcKHAcGAcNGAcCAcCHAcJAcNYAcTAcTHAcDAcNAcPAcPHAcBAcMAcTSA",
  "cTSHAcDZAcWAcZHAcZAc-AcYAcRAcLAcSHAcSAcHAcA/11C92bSUBJOINED LETTER KAdKHAdGAdNGAdCAdCHAdJAdNYA",
  "dTAdTHAdDAdNAdPAdPHAdBAdMAdTSAdTSHAdDZAdWAdZHAdZA/11CA9dYAdRAdLAdSHAdSAdHAdAbVOWEL SIGN AAdIdU",
  "dEdObSIGN ANUSVARAcCANDRABINDU/11D00aMASARAM GONDI LETTER AdAAdIdIIdUdUUdE/11D08dAIdO/11D0BdAU",
  "dKAdKHAdGAdGHAdNGAdCAdCHAdJAdJHAdNYAdTTAdTTHAdDDAdDDHAdNNAdTAdTHAdDAdDHAdNAdPAdPHAdBAdBHAdMA",
  "dYAdRAdLAdVAdSHAdSSAdSAdHAdLLAdKSSAdJNYAdTRAcVOWEL SIGN AAeIeIIeUeUUeVOCALIC R/11D3AeE/11D3C",
  "eAIeO/11D3FeAUcSIGN ANUSVARAdVISARGAdNUKTAdCANDRAdHALANTAcVIRAMAcREPHAcRA-KARA/11D50",
  "cDIGIT ZEROdONEdTWOdTHREEdFOURdFIVEdSIXdSEVENdEIGHTdNINE/11D60aGUNJALA GONDI LETTER AdAAdIdII",
  "dUdUU/11D67dEEdAI/11D6AdOOdAUdYAdVAdBAdBHAdMAdKAdKHAdTAdTHAdLAdGAdGHAdDAdDHAdNAdCAdCHAdTTA",
  "dTTHAdLLAdJAdJHAdDDAdDDHAdNGAdPAdPHAdHAdRAdSAcVOWEL SIGN AAeIeIIeUeUU/11D90eEEeAI/11D93eOOeAU",
  "cSIGN ANUSVARAdVISARGAcVIRAMAcOM/11DA0cDIGIT ZEROdONEdTWOdTHREEdFOURdFIVEdSIXdSEVENdEIGHTdNINE",
  "/11EE0aMAKASAR LETTER KAcGAcNGAcPAcBAcMAcTAcDAcNAcCAcJAcNYAcYAcRAcLAcVAcSAcAbANGKA",
  "bVOWEL SIGN IdUdEdObPASSIMBANGbEND OF SECTION/11F00aKAWI SIGN CANDRABINDUcANUSVARAcREPHA",
  "cVISARGAbLETTER AcAAcIcIIcUcUUcVOCALIC RdRRdLdLLcEcAIcO/11F12cKAcKHAcGAcGHAcNGAcCAcCHAcJAcJHA",
  "cNYAcTTAcTTHAcDDAcDDHAcNNAcTAcTHAcDAcDHAcNAcPAcPHAcBAcBHAcMAcYAcRAcLAcWAcSHAcSSAcSAcHAcJNYA",
  "bVOWEL SIGN AAdALTERNATE AAdIdIIdUdUUdVOCALIC R/11F3EdEdAIdEUbSIGN KILLERbCONJOINERbDANDA",
  "bDOUBLE DANDAbPUNCTUATION SECTION MARKERcALTERNATE SECTION MARKERcFLOWERcSPACE FILLERcDOT",
  "cDOUBLE DOTcTRIPLE DOTcCIRCLEcFILLED CIRCLEcSPIRALcCLOSING SPIRALbDIGIT ZEROcONEcTWOcTHREE",
  "cFOURcFIVEcSIXcSEVENcEIGHTcNINE/11FB0aLISU LETTER YHA/11FC0",
  "aTAMIL FRACTION ONE THREE-HUNDRED-AND-TWENTIETHdONE-HUNDRED-AND-SIXTIETHdEIGHTIETH",
  "dSIXTY-FOURTHdFORTIETHdTHIRTY-SECONDcTHREE EIGHTIETHSdSIXTY-FOURTHScONE TWENTIETHdSIXTEENTH-1",
  "dSIXTEENTH-2dTENTHdEIGHTHcTHREE TWENTIETHSdSIXTEENTHScONE FIFTHdQUARTERdHALF-1dHALF-2",
  "cTHREE QUARTERScDOWNSCALING FACTOR KIIZHbSIGN NELcCEVITUcAAZHAAKKUcUZHAKKUcMUUVUZHAKKUcKURUNI",
  "cPATHAKKUcMUKKURUNIcKAACUcPANAMcPONcVARAAKANcPAARAMcKUZHIcVELIbWET CULTIVATION SIGN",
  "bDRY CULTIVATION SIGNbLAND SIGNbSALT PAN SIGNbTRADITIONAL CREDIT SIGNcNUMBER SIGNbCURRENT SIGN",
  "bAND ODD SIGNbSPENT SIGNbTOTAL SIGNbIN POSSESSION SIGNbSTARTING FROM SIGNbSIGN MUTHALIYA",
  "cVAKAIYARAA/11FFFbPUNCTUATION END OF TEXT"]

end LexPattern.Name.Table
