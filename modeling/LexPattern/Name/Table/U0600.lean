namespace LexPattern.Name.Table

def fromU0600 : List String := [
  "/600aARABIC NUMBER SIGNbSIGN SANAHbFOOTNOTE MARKERbSIGN SAFHAcSAMVATbNUMBER MARK ABOVE",
  "aARABIC-INDIC CUBE ROOTbFOURTH ROOTaARABIC RAYaARABIC-INDIC PER MILLE SIGNcTEN THOUSAND SIGN",
  "aAFGHANI SIGNaARABIC COMMAbDATE SEPARATORbPOETIC VERSE SIGNbSIGN MISRA",
  "cSALLALLAHOU ALAYHE WASSALLAMcALAYHE ASSALLAMcRAHMATULLAH ALAYHEcRADI ALLAHOU ANHUcTAKHALLUS",
  "bSMALL HIGH TAHdLIGATURE ALEF WITH LAM WITH YEHdZAINcFATHAcDAMMAcKASRAbSEMICOLONbLETTER MARK",
  "bEND OF TEXT MARKbTRIPLE DOT PUNCTUATION MARKbQUESTION MARKbLETTER KASHMIRI YEHcHAMZA",
  "cALEF WITH MADDA ABOVEeHAMZA ABOVEcWAW WITH HAMZA ABOVEcALEF WITH HAMZA BELOW",
  "cYEH WITH HAMZA ABOVEcALEFcBEHcTEH MARBUTAcTEHcTHEHcJEEMcHAHcKHAHcDALcTHALcREHcZAINcSEENcSHEEN",
  "cSADcDADcTAHcZAHcAINcGHAINcKEHEH WITH TWO DOTS ABOVEeTHREE DOTS BELOW",
  "cFARSI YEH WITH INVERTED VfTWO DOTS ABOVEfTHREE DOTS ABOVEbTATWEELbLETTER FEHcQAFcKAFcLAMcMEEM",
  "cNOONcHEHcWAWcALEF MAKSURAcYEHbFATHATANbDAMMATANbKASRATANbFATHAbDAMMAbKASRAbSHADDAbSUKUN",
  "bMADDAH ABOVEbHAMZA ABOVEcBELOWbSUBSCRIPT ALEFbINVERTED DAMMAbMARK NOON GHUNNAbZWARAKAY",
  "bVOWEL SIGN SMALL V ABOVEdINVERTED SMALL V ABOVEdDOT BELOWbREVERSED DAMMAbFATHA WITH TWO DOTS",
  "bWAVY HAMZA BELOWaARABIC-INDIC DIGIT ZEROcONEcTWOcTHREEcFOURcFIVEcSIXcSEVENcEIGHTcNINE",
  "aARABIC PERCENT SIGNbDECIMAL SEPARATORbTHOUSANDS SEPARATORbFIVE POINTED STAR",
  "bLETTER DOTLESS BEHdQAFcSUPERSCRIPT ALEFcALEF WASLAdWITH WAVY HAMZA ABOVEgBELOWcHIGH HAMZA",
  "eALEFeWAWcU WITH HAMZA ABOVEcHIGH HAMZA YEHcTTEHcTTEHEHcBEEHcTEH WITH RING",
  "eTHREE DOTS ABOVE DOWNWARDScPEHcTEHEHcBEHEHcHAH WITH HAMZA ABOVEeTWO DOTS VERTICAL ABOVEcNYEH",
  "cDYEHcHAH WITH THREE DOTS ABOVEcTCHEHcTCHEHEHcDDALcDAL WITH RINGeDOT BELOWgAND SMALL TAHcDAHAL",
  "cDDAHALcDULcDAL WITH THREE DOTS ABOVE DOWNWARDSeFOUR DOTS ABOVEcRREHcREH WITH SMALL VeRING",
  "eDOT BELOWeSMALL V BELOWeDOT BELOW AND DOT ABOVEeTWO DOTS ABOVEcJEHcREH WITH FOUR DOTS ABOVE",
  "cSEEN WITH DOT BELOW AND DOT ABOVEeTHREE DOTS BELOWhAND THREE DOTS ABOVE",
  "cSAD WITH TWO DOTS BELOWeTHREE DOTS ABOVEcTAH WITH THREE DOTS ABOVEcAIN WITH THREE DOTS ABOVE",
  "cDOTLESS FEHcFEH WITH DOT MOVED BELOWfBELOWcVEHcFEH WITH THREE DOTS BELOWcPEHEH",
  "cQAF WITH DOT ABOVEeTHREE DOTS ABOVEcKEHEHcSWASH KAFcKAF WITH RINGeDOT ABOVEcNG",
  "cKAF WITH THREE DOTS BELOWcGAFdWITH RINGcNGOEHcGAF WITH TWO DOTS BELOWcGUEH",
  "cGAF WITH THREE DOTS ABOVEcLAM WITH SMALL VeDOT ABOVEeTHREE DOTS ABOVEgBELOW",
  "cNOON WITH DOT BELOWdGHUNNAcRNOONcNOON WITH RINGeTHREE DOTS ABOVEcHEH DOACHASHMEE",
  "cTCHEH WITH DOT ABOVEcHEH WITH YEH ABOVEdGOALeWITH HAMZA ABOVEcTEH MARBUTA GOALcWAW WITH RING",
  "cKIRGHIZ OEcOEcUcYUcKIRGHIZ YUcWAW WITH TWO DOTS ABOVEcVEcFARSI YEHcYEH WITH TAILeSMALL V",
  "cWAW WITH DOT ABOVEcEcYEH WITH THREE DOTS BELOWdBARREEeWITH HAMZA ABOVEbFULL STOPbLETTER AE",
  "bSMALL HIGH LIGATURE SAD WITH LAM WITH ALEF MAKSURAeQAF WITH LAM WITH ALEF MAKSURA",
  "dMEEM INITIAL FORMdLAM ALEFdJEEMdTHREE DOTSdSEENbEND OF AYAHbSTART OF RUB EL HIZB",
  "bSMALL HIGH ROUNDED ZEROdUPRIGHT RECTANGULAR ZEROdDOTLESS HEAD OF KHAHdMEEM ISOLATED FORM",
  "cLOW SEENcHIGH MADDAcWAWcYEHcHIGH YEHdNOONbPLACE OF SAJDAHbEMPTY CENTRE LOW STOPdHIGH STOP",
  "bROUNDED HIGH STOP WITH FILLED CENTREbSMALL LOW MEEMbLETTER DAL WITH INVERTED V",
  "cREH WITH INVERTED VaEXTENDED ARABIC-INDIC DIGIT ZEROdONEdTWOdTHREEdFOURdFIVEdSIXdSEVENdEIGHT",
  "dNINEaARABIC LETTER SHEEN WITH DOT BELOWcDAD WITH DOT BELOWcGHAIN WITH DOT BELOW",
  "bSIGN SINDHI AMPERSANDdPOSTPOSITION MENbLETTER HEH WITH INVERTED VaSYRIAC END OF PARAGRAPH",
  "bSUPRALINEAR FULL STOPbSUBLINEAR FULL STOPbSUPRALINEAR COLONbSUBLINEAR COLONbHORIZONTAL COLON",
  "bCOLON SKEWED LEFTdRIGHTbSUPRALINEAR COLON SKEWED LEFTbSUBLINEAR COLON SKEWED RIGHT",
  "bCONTRACTIONbHARKLEAN OBELUScMETOBELUScASTERISCUS/70FbABBREVIATION MARKbLETTER ALAPH",
  "cSUPERSCRIPT ALAPHcBETHcGAMALdGARSHUNIcDALATHcDOTLESS DALATH RISHcHEcWAWcZAINcHETHcTETH",
  "dGARSHUNIcYUDHdHEcKAPHcLAMADHcMIMcNUNcSEMKATHcFINAL SEMKATHcEcPEcREVERSED PEcSADHEcQAPHcRISH",
  "cSHINcTAWcPERSIAN BHETHdGHAMALdDHALATHbPTHAHA ABOVEcBELOWcDOTTEDbZQAPHA ABOVEcBELOWcDOTTED",
  "bRBASA ABOVEcBELOWbDOTTED ZLAMA HORIZONTALdANGULARbHBASA ABOVEcBELOWbHBASA-ESASA DOTTED",
  "bESASA ABOVEcBELOWbRWAHAbFEMININE DOTbQUSHSHAYAbRUKKAKHAbTWO VERTICAL DOTS ABOVEeBELOW",
  "bTHREE DOTS ABOVEdBELOWbOBLIQUE LINE ABOVEdBELOWbMUSICbBARREKH/74DbLETTER SOGDIAN ZHAINdKHAPH",
  "dFEaARABIC LETTER BEH WITH THREE DOTS HORIZONTALLY BELOWeDOT BELOW AND THREE DOTS ABOVE",
  "eTHREE DOTS POINTING UPWARDS BELOWjAND TWO DOTS ABOVEeTWO DOTS BELOW AND DOT ABOVE",
  "eINVERTED SMALL V BELOWeSMALL VcHAH WITH TWO DOTS ABOVEeTHREE DOTS POINTING UPWARDS BELOW",
  "cDAL WITH TWO DOTS VERTICALLY BELOW AND SMALL TAHeINVERTED SMALL V BELOWcREH WITH STROKE",
  "cSEEN WITH FOUR DOTS ABOVEcAIN WITH TWO DOTS ABOVEeTHREE DOTS POINTING DOWNWARDS ABOVE",
  "eTWO DOTS VERTICALLY ABOVEcFEH WITH TWO DOTS BELOWeTHREE DOTS POINTING UPWARDS BELOW",
  "cKEHEH WITH DOT ABOVEeTHREE DOTS ABOVEgPOINTING UPWARDS BELOWcMEEM WITH DOT ABOVEfBELOW",
  "cNOON WITH TWO DOTS BELOWeSMALL TAHfVcLAM WITH BARcREH WITH TWO DOTS VERTICALLY ABOVE",
  "eHAMZA ABOVEcSEEN WITH TWO DOTS VERTICALLY ABOVEcHAH WITH SMALL ARABIC LETTER TAH BELOW",
  "iAND TWO DOTScSEEN WITH SMALL ARABIC LETTER TAH AND TWO DOTS",
  "cREH WITH SMALL ARABIC LETTER TAH AND TWO DOTScHAH WITH SMALL ARABIC LETTER TAH ABOVE",
  "cALEF WITH EXTENDED ARABIC-INDIC DIGIT TWO ABOVEhTHREE ABOVE",
  "cFARSI YEH WITH EXTENDED ARABIC-INDIC DIGIT TWO ABOVEiTHREE ABOVEiFOUR BELOW",
  "cWAW WITH EXTENDED ARABIC-INDIC DIGIT TWO ABOVEhTHREE ABOVE",
  "cYEH BARREE WITH EXTENDED ARABIC-INDIC DIGIT TWO ABOVEiTHREE ABOVE",
  "cHAH WITH EXTENDED ARABIC-INDIC DIGIT FOUR BELOW",
  "cSEEN WITH EXTENDED ARABIC-INDIC DIGIT FOUR ABOVEeINVERTED VcKAF WITH TWO DOTS ABOVE",
  "aTHAANA LETTER HAAcSHAVIYANIcNOONUcRAAcBAAcLHAVIYANIcKAAFUcALIFUcVAAVUcMEEMUcFAAFUcDHAALUcTHAA",
  "cLAAMUcGAAFUcGNAVIYANIcSEENUcDAVIYANIcZAVIYANIcTAVIYANIcYAAcPAVIYANIcJAVIYANIcCHAVIYANIcTTAA",
  "cHHAAcKHAAcTHAALUcZAAcSHEENUcSAADHUcDAADHUcTOcZOcAINUcGHAINUcQAAFUcWAAVUbABAFILIbAABAAFILI",
  "bIBIFILIbEEBEEFILIbUBUFILIbOOBOOFILIbEBEFILIbEYBEYFILIbOBOFILIbOABOAFILIbSUKUNbLETTER NAA/7C0",
  "aNKO DIGIT ZEROcONEcTWOcTHREEcFOURcFIVEcSIXcSEVENcEIGHTcNINEbLETTER AcEEcIcEcUcOOcOcDAGBASINNA",
  "cNcBAcPAcTAcJAcCHAcDAcRAcRRAcSAcGBAcFAcKAcLAcNA WOLOSOcMAcNYAcNAcHAcWAcYAcNYA WOLOSOcJONA JA",
  "dCHAdRAbCOMBINING SHORT HIGH TONEdLOW TONEdRISING TONEcLONG DESCENDING TONEdHIGH TONEdLOW TONE",
  "dRISING TONEcNASALIZATION MARKcDOUBLE DOT ABOVEbHIGH TONE APOSTROPHEbLOW TONE APOSTROPHE",
  "bSYMBOL OO DENNENcGBAKURUNENbCOMMAbEXCLAMATION MARKbLAJANYALAN/7FDbDANTAYALANbDOROME SIGN",
  "bTAMAN SIGNaSAMARITAN LETTER ALAFcBITcGAMANcDALATcIYcBAAcZENcITcTITcYUTcKAAFcLABATcMIMcNUN",
  "cSINGAATcINcFIcTSAADIYcQUFcRISHcSHANcTAAFbMARK INcIN-ALAFcOCCLUSIONcDAGESH",
  "bMODIFIER LETTER EPENTHETIC YUTbMARK EPENTHETIC YUTbVOWEL SIGN LONG EdEdOVERLONG AAdLONG AAdAA",
  "dOVERLONG AdLONG AdAbMODIFIER LETTER SHORT AbVOWEL SIGN SHORT AdLONG UdUbMODIFIER LETTER I",
  "bVOWEL SIGN LONG IdIdOdSUKUNbMARK NEQUDAA/830bPUNCTUATION NEQUDAAcAFSAAQcANGEDcBAUcATMAAU",
  "cSHIYYAALAAbABBREVIATION MARKbPUNCTUATION MELODIC QITSAcZIQAAcQITSAcZAEFcTURUcARKAANU",
  "cSOF MASHFAATcANNAAU/840aMANDAIC LETTER HALQAcABcAGcADcAHcUSHENNAcAZcITcATTcAKSAcAKcALcAMcAN",
  "cAScINcAPcASZcAQcARcASHcATcDUSHENNAcKADcAINbAFFRICATION MARKbVOCALIZATION MARKbGEMINATION MARK",
  "/85EbPUNCTUATION/860aSYRIAC LETTER MALAYALAM NGAdJAdNYAdTTAdNNAdNNNAdBHAdRAdLLAdLLLAdSSA/870",
  "aARABIC LETTER ALEF WITH ATTACHED FATHAfTOP RIGHT FATHAeRIGHT MIDDLE STROKEeLEFT MIDDLE STROKE",
  "eATTACHED KASRAfBOTTOM RIGHT KASRAfROUND DOT ABOVEfRIGHT ROUND DOTfLEFT ROUND DOT",
  "fROUND DOT BELOWeDOT ABOVEeATTACHED TOP RIGHT FATHA AND DOT ABOVE",
  "eRIGHT MIDDLE STROKE AND DOT ABOVEeATTACHED BOTTOM RIGHT KASRA AND DOT ABOVE",
  "fTOP RIGHT FATHA AND LEFT RINGeRIGHT MIDDLE STROKE AND LEFT RING",
  "eATTACHED BOTTOM RIGHT KASRA AND LEFT RINGfRIGHT HAMZAfLEFT HAMZA",
  "bTATWEEL WITH OVERSTRUCK HAMZAeWAWdTWO DOTS BELOWbLETTER THIN YEHbBASELINE ROUND DOT",
  "bRAISED ROUND DOTbLETTER NOON WITH INVERTED SMALL VcHAH WITH INVERTED SMALL V BELOW",
  "cTAH WITH DOT BELOWeTHREE DOTS BELOWcKEHEH WITH TWO DOTS VERTICALLY BELOWbVERTICAL TAIL/890",
  "bPOUND MARK ABOVEbPIASTRE MARK ABOVE/898bSMALL HIGH WORD AL-JUZcLOW WORD ISHMAAMeIMAALA",
  "eTASHEELbMADDA WAAJIBbSUPERSCRIPT ALEF MOKHASSASbDOUBLED MADDAbHALF MADDA OVER MADDA",
  "bLETTER BEH WITH SMALL V BELOWeHAMZA ABOVEcJEEM WITH TWO DOTS ABOVEcTAH WITH TWO DOTS ABOVE",
  "cFEH WITH DOT BELOW AND THREE DOTS ABOVEcQAF WITH DOT BELOWcLAM WITH DOUBLE BAR",
  "cMEEM WITH THREE DOTS ABOVEcYEH WITH TWO DOTS BELOW AND HAMZA ABOVEiDOT ABOVEcREH WITH LOOP",
  "cWAW WITH DOT WITHINcROHINGYA YEHcLOW ALEFcDAL WITH THREE DOTS BELOWcSAD WITH THREE DOTS BELOW",
  "cGAF WITH INVERTED STROKEcSTRAIGHT WAWcZAIN WITH INVERTED V ABOVEcAIN WITH THREE DOTS BELOW",
  "cKAF WITH DOT BELOWcQAF WITH DOT BELOW AND NO DOTS ABOVEcBEH WITH SMALL MEEM ABOVE",
  "cPEH WITH SMALL MEEM ABOVEcTEH WITH SMALL TEH ABOVEcREH WITH SMALL NOON ABOVE",
  "cYEH WITH TWO DOTS BELOW AND SMALL NOON ABOVEcAFRICAN FEHdQAFdNOONcPEH WITH SMALL V",
  "cTEH WITH SMALL VcTTEH WITH SMALL VcTCHEH WITH SMALL VcKEHEH WITH SMALL V",
  "cGHAIN WITH THREE DOTS ABOVEcAFRICAN QAF WITH THREE DOTS ABOVEcJEEM WITH THREE DOTS ABOVE",
  "gBELOWcLAM WITH SMALL ARABIC LETTER TAH ABOVEcGRAFbSMALL FARSI YEHcHIGH FARSI YEH",
  "dYEH BARREE WITH TWO DOTS BELOWdWORD SAHdZAHbLARGE ROUND DOT ABOVEeBELOWbSUKUN BELOW",
  "bLARGE CIRCLE BELOWcROUND DOT INSIDE CIRCLE BELOWbSMALL LOW WAWcHIGH WORD AR-RUBdSADdAINdQAF",
  "dNOON WITH KASRAcLOW NOON WITH KASRAcHIGH WORD ATH-THALATHAeAS-SAJDAeAN-NISFeSAKTAeQIFeWAQFA",
  "dFOOTNOTE MARKERdSIGN SAFHAbDISPUTED END OF AYAHbTURNED DAMMA BELOWbCURLY FATHAcDAMMAcKASRA",
  "cFATHATANcDAMMATANcKASRATANbTONE ONE DOT ABOVEcTWO DOTS ABOVEcLOOP ABOVEcONE DOT BELOW",
  "cTWO DOTS BELOWcLOOP BELOWbOPEN FATHATANcDAMMATANcKASRATANbSMALL HIGH WAWbFATHA WITH RING",
  "dDOT ABOVEbKASRA WITH DOT BELOWbLEFT ARROWHEAD ABOVEbRIGHT ARROWHEAD ABOVE",
  "bLEFT ARROWHEAD BELOWbRIGHT ARROWHEAD BELOWbDOUBLE RIGHT ARROWHEAD ABOVEfWITH DOT",
  "bRIGHT ARROWHEAD ABOVE WITH DOTbDAMMA WITH DOTbMARK SIDEWAYS NOON GHUNNA",
  "aDEVANAGARI SIGN INVERTED CANDRABINDUcCANDRABINDUcANUSVARAcVISARGAbLETTER SHORT AcAcAAcIcIIcU",
  "cUUcVOCALIC RdLcCANDRA EcSHORT EcEcAIcCANDRA OcSHORT OcOcAUcKAcKHAcGAcGHAcNGAcCAcCHAcJAcJHA",
  "cNYAcTTAcTTHAcDDAcDDHAcNNAcTAcTHAcDAcDHAcNAcNNNAcPAcPHAcBAcBHAcMAcYAcRAcRRAcLAcLLAcLLLAcVAcSHA",
  "cSSAcSAcHAbVOWEL SIGN OEdOOEbSIGN NUKTAcAVAGRAHAbVOWEL SIGN AAdIdIIdUdUUdVOCALIC ReRRdCANDRA E",
  "dSHORT EdEdAIdCANDRA OdSHORT OdOdAUbSIGN VIRAMAbVOWEL SIGN PRISHTHAMATRA EdAWbOM",
  "bSTRESS SIGN UDATTAdANUDATTAbGRAVE ACCENTbACUTE ACCENTbVOWEL SIGN CANDRA LONG EdUEdUUE",
  "bLETTER QAcKHHAcGHHAcZAcDDDHAcRHAcFAcYYAcVOCALIC RRdLLbVOWEL SIGN VOCALIC LeLLbDANDA",
  "bDOUBLE DANDAbDIGIT ZEROcONEcTWOcTHREEcFOURcFIVEcSIXcSEVENcEIGHTcNINEbABBREVIATION SIGN",
  "bSIGN HIGH SPACING DOTbLETTER CANDRA AcOEcOOEcAWcUEcUUEcMARWARI DDAcZHAcHEAVY YAcGGAcJJA",
  "cGLOTTAL STOPcDDDAcBBAaBENGALI ANJIbSIGN CANDRABINDUcANUSVARAcVISARGA/985bLETTER AcAAcIcIIcU",
  "cUUcVOCALIC RdL/98FcEcAI/993cOcAUcKAcKHAcGAcGHAcNGAcCAcCHAcJAcJHAcNYAcTTAcTTHAcDDAcDDHAcNNAcTA",
  "cTHAcDAcDHAcNA/9AAcPAcPHAcBAcBHAcMAcYAcRA/9B2cLA/9B6cSHAcSSAcSAcHA/9BCbSIGN NUKTAcAVAGRAHA",
  "bVOWEL SIGN AAdIdIIdUdUUdVOCALIC ReRR/9C7dEdAI/9CBdOdAUbSIGN VIRAMAbLETTER KHANDA TA/9D7",
  "bAU LENGTH MARK/9DCbLETTER RRAcRHA/9DFcYYAcVOCALIC RRdLLbVOWEL SIGN VOCALIC LeLL/9E6",
  "bDIGIT ZEROcONEcTWOcTHREEcFOURcFIVEcSIXcSEVENcEIGHTcNINEbLETTER RA WITH MIDDLE DIAGONAL",
  "eLOWER DIAGONALbRUPEE MARKcSIGNbCURRENCY NUMERATOR ONEdTWOdTHREEdFOUR",
  "dONE LESS THAN THE DENOMINATORcDENOMINATOR SIXTEENbISSHARbGANDA MARKbLETTER VEDIC ANUSVARA",
  "bABBREVIATION SIGNbSANDHI MARK/A01aGURMUKHI SIGN ADAK BINDIcBINDIcVISARGA/A05bLETTER AcAAcIcII",
  "cUcUU/A0FcEEcAI/A13cOOcAUcKAcKHAcGAcGHAcNGAcCAcCHAcJAcJHAcNYAcTTAcTTHAcDDAcDDHAcNNAcTAcTHAcDA",
  "cDHAcNA/A2AcPAcPHAcBAcBHAcMAcYAcRA/A32cLAcLLA/A35cVAcSHA/A38cSAcHA/A3CbSIGN NUKTA/A3E",
  "bVOWEL SIGN AAdIdIIdUdUU/A47dEEdAI/A4BdOOdAUbSIGN VIRAMA/A51cUDAAT/A59bLETTER KHHAcGHHAcZAcRRA",
  "/A5EcFA/A66bDIGIT ZEROcONEcTWOcTHREEcFOURcFIVEcSIXcSEVENcEIGHTcNINEbTIPPIbADDAKbIRIbURA",
  "bEK ONKARbSIGN YAKASHbABBREVIATION SIGN/A81aGUJARATI SIGN CANDRABINDUcANUSVARAcVISARGA/A85",
  "bLETTER AcAAcIcIIcUcUUcVOCALIC RdLbVOWEL CANDRA E/A8FbLETTER EcAIbVOWEL CANDRA O/A93bLETTER O",
  "cAUcKAcKHAcGAcGHAcNGAcCAcCHAcJAcJHAcNYAcTTAcTTHAcDDAcDDHAcNNAcTAcTHAcDAcDHAcNA/AAAcPAcPHAcBA",
  "cBHAcMAcYAcRA/AB2cLAcLLA/AB5cVAcSHAcSSAcSAcHA/ABCbSIGN NUKTAcAVAGRAHAbVOWEL SIGN AAdIdIIdUdUU",
  "dVOCALIC ReRRdCANDRA E/AC7dEdAIdCANDRA O/ACBdOdAUbSIGN VIRAMA/AD0bOM/AE0bLETTER VOCALIC RRdLL",
  "bVOWEL SIGN VOCALIC LeLL/AE6bDIGIT ZEROcONEcTWOcTHREEcFOURcFIVEcSIXcSEVENcEIGHTcNINE",
  "bABBREVIATION SIGNbRUPEE SIGN/AF9bLETTER ZHAbSIGN SUKUNcSHADDAcMADDAHcTHREE-DOT NUKTA ABOVE",
  "cCIRCLE NUKTA ABOVEcTWO-CIRCLE NUKTA ABOVE/B01aORIYA SIGN CANDRABINDUcANUSVARAcVISARGA/B05",
  "bLETTER AcAAcIcIIcUcUUcVOCALIC RdL/B0FcEcAI/B13cOcAUcKAcKHAcGAcGHAcNGAcCAcCHAcJAcJHAcNYAcTTA",
  "cTTHAcDDAcDDHAcNNAcTAcTHAcDAcDHAcNA/B2AcPAcPHAcBAcBHAcMAcYAcRA/B32cLAcLLA/B35cVAcSHAcSSAcSAcHA",
  "/B3CbSIGN NUKTAcAVAGRAHAbVOWEL SIGN AAdIdIIdUdUUdVOCALIC ReRR/B47dEdAI/B4BdOdAUbSIGN VIRAMA",
  "/B55cOVERLINEbAI LENGTH MARKbAU LENGTH MARK/B5CbLETTER RRAcRHA/B5FcYYAcVOCALIC RRdLL",
  "bVOWEL SIGN VOCALIC LeLL/B66bDIGIT ZEROcONEcTWOcTHREEcFOURcFIVEcSIXcSEVENcEIGHTcNINEbISSHAR",
  "bLETTER WAbFRACTION ONE QUARTERdHALFcTHREE QUARTERScONE SIXTEENTHdEIGHTHcTHREE SIXTEENTHS/B82",
  "aTAMIL SIGN ANUSVARAcVISARGA/B85bLETTER AcAAcIcIIcUcUU/B8EcEcEEcAI/B92cOcOOcAUcKA/B99cNGAcCA",
  "/B9CcJA/B9EcNYAcTTA/BA3cNNAcTA/BA8cNAcNNNAcPA/BAEcMAcYAcRAcRRAcLAcLLAcLLLAcVAcSHAcSSAcSAcHA",
  "/BBEbVOWEL SIGN AAdIdIIdUdUU/BC6dEdEEdAI/BCAdOdOOdAUbSIGN VIRAMA/BD0bOM/BD7bAU LENGTH MARK/BE6",
  "bDIGIT ZEROcONEcTWOcTHREEcFOURcFIVEcSIXcSEVENcEIGHTcNINEbNUMBER TENcONE HUNDREDdTHOUSAND",
  "bDAY SIGNbMONTH SIGNbYEAR SIGNbDEBIT SIGNbCREDIT SIGNbAS ABOVE SIGNbRUPEE SIGNbNUMBER SIGN/C00",
  "aTELUGU SIGN COMBINING CANDRABINDU ABOVEcCANDRABINDUcANUSVARAcVISARGAcCOMBINING ANUSVARA ABOVE",
  "bLETTER AcAAcIcIIcUcUUcVOCALIC RdL/C0EcEcEEcAI/C12cOcOOcAUcKAcKHAcGAcGHAcNGAcCAcCHAcJAcJHAcNYA",
  "cTTAcTTHAcDDAcDDHAcNNAcTAcTHAcDAcDHAcNA/C2AcPAcPHAcBAcBHAcMAcYAcRAcRRAcLAcLLAcLLLAcVAcSHAcSSA",
  "cSAcHA/C3CbSIGN NUKTAcAVAGRAHAbVOWEL SIGN AAdIdIIdUdUUdVOCALIC ReRR/C46dEdEEdAI/C4AdOdOOdAU",
  "bSIGN VIRAMA/C55bLENGTH MARKbAI LENGTH MARK/C58bLETTER TSAcDZAcRRRA/C5DcNAKAARA POLLU/C60",
  "cVOCALIC RRdLLbVOWEL SIGN VOCALIC LeLL/C66bDIGIT ZEROcONEcTWOcTHREEcFOURcFIVEcSIXcSEVENcEIGHT",
  "cNINE/C77bSIGN SIDDHAMbFRACTION DIGIT ZERO FOR ODD POWERS OF FOURdONE FOR ODD POWERS OF FOUR",
  "dTWO FOR ODD POWERS OF FOURdTHREE FOR ODD POWERS OF FOURdONE FOR EVEN POWERS OF FOUR",
  "dTWO FOR EVEN POWERS OF FOURdTHREE FOR EVEN POWERS OF FOURbSIGN TUUMU",
  "aKANNADA SIGN SPACING CANDRABINDUcCANDRABINDUcANUSVARAcVISARGAcSIDDHAMbLETTER AcAAcIcIIcUcUU",
  "cVOCALIC RdL/C8EcEcEEcAI/C92cOcOOcAUcKAcKHAcGAcGHAcNGAcCAcCHAcJAcJHAcNYAcTTAcTTHAcDDAcDDHAcNNA",
  "cTAcTHAcDAcDHAcNA/CAAcPAcPHAcBAcBHAcMAcYAcRAcRRAcLAcLLA/CB5cVAcSHAcSSAcSAcHA/CBCbSIGN NUKTA",
  "cAVAGRAHAbVOWEL SIGN AAdIdIIdUdUUdVOCALIC ReRR/CC6dEdEEdAI/CCAdOdOOdAUbSIGN VIRAMA/CD5",
  "bLENGTH MARKbAI LENGTH MARK/CDDbLETTER NAKAARA POLLUcFA/CE0cVOCALIC RRdLLbVOWEL SIGN VOCALIC L",
  "eLL/CE6bDIGIT ZEROcONEcTWOcTHREEcFOURcFIVEcSIXcSEVENcEIGHTcNINE/CF1bSIGN JIHVAMULIYA",
  "cUPADHMANIYAcCOMBINING ANUSVARA ABOVE RIGHT/D00aMALAYALAM SIGN COMBINING ANUSVARA ABOVE",
  "cCANDRABINDUcANUSVARAcVISARGAbLETTER VEDIC ANUSVARAcAcAAcIcIIcUcUUcVOCALIC RdL/D0EcEcEEcAI/D12",
  "cOcOOcAUcKAcKHAcGAcGHAcNGAcCAcCHAcJAcJHAcNYAcTTAcTTHAcDDAcDDHAcNNAcTAcTHAcDAcDHAcNAcNNNAcPA",
  "cPHAcBAcBHAcMAcYAcRAcRRAcLAcLLAcLLLAcVAcSHAcSSAcSAcHAcTTTAbSIGN VERTICAL BAR VIRAMA",
  "cCIRCULAR VIRAMAcAVAGRAHAbVOWEL SIGN AAdIdIIdUdUUdVOCALIC ReRR/D46dEdEEdAI/D4AdOdOOdAU",
  "bSIGN VIRAMAbLETTER DOT REPHbSIGN PARA/D54bLETTER CHILLU MdYdLLLbAU LENGTH MARK",
  "bFRACTION ONE ONE-HUNDRED-AND-SIXTIETHdFORTIETHcTHREE EIGHTIETHScONE TWENTIETHdTENTH",
  "cTHREE TWENTIETHScONE FIFTHbLETTER ARCHAIC IIcVOCALIC RRdLLbVOWEL SIGN VOCALIC LeLL/D66",
  "bDIGIT ZEROcONEcTWOcTHREEcFOURcFIVEcSIXcSEVENcEIGHTcNINEbNUMBER TENcONE HUNDREDdTHOUSAND",
  "bFRACTION ONE QUARTERdHALFcTHREE QUARTERScONE SIXTEENTHdEIGHTHcTHREE SIXTEENTHSbDATE MARK",
  "bLETTER CHILLU NNdNdRRdLdLLdK/D81aSINHALA SIGN CANDRABINDUcANUSVARAYAcVISARGAYA/D85",
  "bLETTER AYANNAcAAYANNAcAEYANNAcAEEYANNAcIYANNAcIIYANNAcUYANNAcUUYANNAcIRUYANNAcIRUUYANNA",
  "cILUYANNAcILUUYANNAcEYANNAcEEYANNAcAIYANNAcOYANNAcOOYANNAcAUYANNA/D9AcALPAPRAANA KAYANNA",
  "cMAHAAPRAANA KAYANNAcALPAPRAANA GAYANNAcMAHAAPRAANA GAYANNAcKANTAJA NAASIKYAYAcSANYAKA GAYANNA",
  "cALPAPRAANA CAYANNAcMAHAAPRAANA CAYANNAcALPAPRAANA JAYANNAcMAHAAPRAANA JAYANNA",
  "cTAALUJA NAASIKYAYAdSANYOOGA NAAKSIKYAYAcSANYAKA JAYANNAcALPAPRAANA TTAYANNA",
  "cMAHAAPRAANA TTAYANNAcALPAPRAANA DDAYANNAcMAHAAPRAANA DDAYANNAcMUURDHAJA NAYANNA",
  "cSANYAKA DDAYANNAcALPAPRAANA TAYANNAcMAHAAPRAANA TAYANNAcALPAPRAANA DAYANNA",
  "cMAHAAPRAANA DAYANNAcDANTAJA NAYANNA/DB3cSANYAKA DAYANNAcALPAPRAANA PAYANNA",
  "cMAHAAPRAANA PAYANNAcALPAPRAANA BAYANNAcMAHAAPRAANA BAYANNAcMAYANNAcAMBA BAYANNAcYAYANNA",
  "cRAYANNA/DBDcDANTAJA LAYANNA/DC0cVAYANNAcTAALUJA SAYANNAcMUURDHAJA SAYANNAcDANTAJA SAYANNA",
  "cHAYANNAcMUURDHAJA LAYANNAcFAYANNA/DCAbSIGN AL-LAKUNA/DCFbVOWEL SIGN AELA-PILLA",
  "dKETTI AEDA-PILLAdDIGA AEDA-PILLAdKETTI IS-PILLAdDIGA IS-PILLAdKETTI PAA-PILLA/DD6",
  "dDIGA PAA-PILLA/DD8dGAETTA-PILLAdKOMBUVAdDIGA KOMBUVAdKOMBU DEKAdKOMBUVA HAA AELA-PILLA",
  "fDIGA AELA-PILLAfGAYANUKITTAdGAYANUKITTA/DE6bLITH DIGIT ZEROdONEdTWOdTHREEdFOURdFIVEdSIXdSEVEN",
  "dEIGHTdNINE/DF2bVOWEL SIGN DIGA GAETTA-PILLAeGAYANUKITTAbPUNCTUATION KUNDDALIYA/E01",
  "aTHAI CHARACTER KO KAIcKHO KHAIdKHUATdKHWAIdKHONdRAKHANGcNGO NGUcCHO CHANdCHINGdCHANGcSO SO",
  "cCHO CHOEcYO YINGcDO CHADAcTO PATAKcTHO THANdNANGMONTHOdPHUTHAOcNO NENcDO DEKcTO TAOcTHO THUNG",
  "dTHAHANdTHONGcNO NUcBO BAIMAIcPO PLAcPHO PHUNGcFO FAcPHO PHANcFO FANcPHO SAMPHAOcMO MAcYO YAK",
  "cRO RUAcRUcLO LINGcLUcWO WAENcSO SALAdRUSIdSUAcHO HIPcLO CHULAcO ANGcHO NOKHUKcPAIYANNOI",
  "cSARA AcMAI HAN-AKATcSARA AAdAMdIdIIdUEdUEEdUdUUcPHINTHU/E3FbCURRENCY SYMBOL BAHT",
  "bCHARACTER SARA EdAEdOdAI MAIMUANeMAIMALAIcLAKKHANGYAOcMAIYAMOKcMAITAIKHUcMAI EKdTHOdTRI",
  "dCHATTAWAcTHANTHAKHATcNIKHAHITcYAMAKKANcFONGMANbDIGIT ZEROcONEcTWOcTHREEcFOURcFIVEcSIXcSEVEN",
  "cEIGHTcNINEbCHARACTER ANGKHANKHUcKHOMUT/E81aLAO LETTER KOcKHO SUNG/E84dTAM/E86cPALI GHAcNGOcCO",
  "cPALI CHAcSO TAM/E8CcPALI JHAcNYOcPALI NYAdTTAdTTHAdDDAdDDHAdNNAcDOcTOcTHO SUNGdTAMcPALI DHA",
  "cNOcBOcPOcPHO SUNGcFO TAMcPHO TAMcFO SUNGcPALI BHAcMOcYOcLO LING/EA5dLOOT/EA7cWOcSANSKRIT SHA",
  "dSSAcSO SUNGcHO SUNGcPALI LLAcOcHO TAMbELLIPSISbVOWEL SIGN AdMAI KANdAAdAMdIdIIdYdYYdUdUU",
  "bSIGN PALI VIRAMAbVOWEL SIGN MAI KONbSEMIVOWEL SIGN LOdNYO/EC0bVOWEL SIGN EdEIdOdAYdAI/EC6",
  "bKO LA/EC8bTONE MAI EKdTHOdTIdCATAWAbCANCELLATION MARKbNIGGAHITAbYAMAKKAN/ED0bDIGIT ZEROcONE",
  "cTWOcTHREEcFOURcFIVEcSIXcSEVENcEIGHTcNINE/EDCbHO NOcMObLETTER KHMU GOdNYO/F00",
  "aTIBETAN SYLLABLE OMbMARK GTER YIG MGO TRUNCATED Af-UM RNAM BCAD MAgGTER TSHEG MA",
  "cINITIAL YIG MGO MDUN MAcCLOSING YIG MGO SGAB MAcCARET YIG MGO PHUR SHAD MA",
  "cYIG MGO TSHEG SHAD MAcSBRUL SHADcBSKUR YIG MGOcBKA- SHOG YIG MGOcINTERSYLLABIC TSHEG",
  "cDELIMITER TSHEG BSTARcSHADcNYIS SHADcTSHEG SHADcNYIS TSHEG SHADcRIN CHEN SPUNGS SHAD",
  "cRGYA GRAM SHADcCARET -DZUD RTAGS ME LONG CANcGTER TSHEGbLOGOTYPE SIGN CHAD RTAGSdLHAG RTAGS",
  "bASTROLOGICAL SIGN SGRA GCAN -CHAR RTAGSd-KHYUD PAdSDONG TSHUGSbSIGN RDEL DKAR GCIGeGNYISeGSUM",
  "dNAG GCIGeGNYISdDKAR RDEL NAGbDIGIT ZEROcONEcTWOcTHREEcFOURcFIVEcSIXcSEVENcEIGHTcNINEcHALF ONE",
  "dTWOdTHREEdFOURdFIVEdSIXdSEVENdEIGHTdNINEdZERObMARK BSDUS RTAGScNGAS BZUNG NYI ZLA",
  "cCARET -DZUD RTAGS BZHI MIG CANcNGAS BZUNG SGOR RTAGScCHE MGOcTSA -PHRUcGUG RTAGS GYONeGYAS",
  "cANG KHANG GYONeGYASbSIGN YAR TSHEScMAR TSHESbLETTER KAcKHAcGAcGHAcNGAcCAcCHAcJA/F49cNYAcTTA",
  "cTTHAcDDAcDDHAcNNAcTAcTHAcDAcDHAcNAcPAcPHAcBAcBHAcMAcTSAcTSHAcDZAcDZHAcWAcZHAcZAc-AcYAcRAcLA",
  "cSHAcSSAcSAcHAcAcKSSAcFIXED-FORM RAcKKAcRRA/F71bVOWEL SIGN AAdIdIIdUdUUdVOCALIC ReRReLeLLdEdEE",
  "dOdOObSIGN RJES SU NGA ROcRNAM BCADbVOWEL SIGN REVERSED IeIIbSIGN NYI ZLA NAA DAcSNA LDAN",
  "bMARK HALANTAcPALUTAbSIGN LCI RTAGScYANG RTAGScLCE TSA CANcMCHU CANcGRU CAN RGYINGS",
  "dMED RGYINGScINVERTED MCHU CANbSUBJOINED SIGN LCE TSA CANdMCHU CANdINVERTED MCHU CANcLETTER KA",
  "dKHAdGAdGHAdNGAdCAdCHAdJA/F99dNYAdTTAdTTHAdDDAdDDHAdNNAdTAdTHAdDAdDHAdNAdPAdPHAdBAdBHAdMAdTSA",
  "dTSHAdDZAdDZHAdWAdZHAdZAd-AdYAdRAdLAdSHAdSSAdSAdHAdAdKSSAdFIXED-FORM WAeYAeRA/FBEbKU RU KHA",
  "eBZHI MIG CANbCANTILLATION SIGN HEAVY BEATdLIGHT BEATdCANG TE-UdSBUB -CHALbSYMBOL DRIL BU",
  "cRDO RJEcPADMA GDANcRDO RJE RGYA GRAMcPHUR PAcNOR BUeNYIS -KHYILeGSUM -KHYILeBZHI -KHYIL/FCE",
  "bSIGN RDEL NAG RDEL DKAReGSUMbMARK BSKA- SHOG GI MGO RGYANcMNYAM YIG GI MGO RGYANcNYIS TSHEG",
  "cINITIAL BRDA RNYING YIG MGO MDUN MAcCLOSING BRDA RNYING YIG MGO SGAB MA",
  "aRIGHT-FACING SVASTI SIGNaLEFT-FACING SVASTI SIGNaRIGHT-FACING SVASTI SIGN WITH DOTS",
  "aLEFT-FACING SVASTI SIGN WITH DOTSaTIBETAN MARK LEADING MCHAN RTAGScTRAILING MCHAN RTAGS"]

end LexPattern.Name.Table
