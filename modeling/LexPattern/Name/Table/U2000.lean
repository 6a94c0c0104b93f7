namespace LexPattern.Name.Table

def fromU2000 : List String := [
  "/2000aEN QUADaEM QUADaEN SPACEaEM SPACEaTHREE-PER-EM SPACEaFOUR-PER-EM SPACEaSIX-PER-EM SPACE",
  "aFIGURE SPACEaPUNCTUATION SPACEaTHIN SPACEaHAIR SPACEaZERO WIDTH SPACEcNON-JOINERcJOINER",
  "aLEFT-TO-RIGHT MARKaRIGHT-TO-LEFT MARKaHYPHENaNON-BREAKING HYPHENaFIGURE DASHaEN DASHaEM DASH",
  "aHORIZONTAL BARaDOUBLE VERTICAL LINEbLOW LINEaLEFT SINGLE QUOTATION MARK",
  "aRIGHT SINGLE QUOTATION MARKaSINGLE LOW-9 QUOTATION MARKbHIGH-REVERSED-9 QUOTATION MARK",
  "aLEFT DOUBLE QUOTATION MARKaRIGHT DOUBLE QUOTATION MARKaDOUBLE LOW-9 QUOTATION MARK",
  "bHIGH-REVERSED-9 QUOTATION MARKaDAGGERaDOUBLE DAGGERaBULLETaTRIANGULAR BULLETaONE DOT LEADER",
  "aTWO DOT LEADERaHORIZONTAL ELLIPSISaHYPHENATION POINTaLINE SEPARATORaPARAGRAPH SEPARATOR",
  "aLEFT-TO-RIGHT EMBEDDINGaRIGHT-TO-LEFT EMBEDDINGaPOP DIRECTIONAL FORMATTING",
  "aLEFT-TO-RIGHT OVERRIDEaRIGHT-TO-LEFT OVERRIDEaNARROW NO-BREAK SPACEaPER MILLE SIGN",
  "bTEN THOUSAND SIGNaPRIMEaDOUBLE PRIMEaTRIPLE PRIMEaREVERSED PRIMEbDOUBLE PRIMEbTRIPLE PRIME",
  "aCARETaSINGLE LEFT-POINTING ANGLE QUOTATION MARKbRIGHT-POINTING ANGLE QUOTATION MARK",
  "aREFERENCE MARKaDOUBLE EXCLAMATION MARKaINTERROBANGaOVERLINEaUNDERTIEaCHARACTER TIE",
  "aCARET INSERTION POINTaASTERISMaHYPHEN BULLETaFRACTION SLASHaLEFT SQUARE BRACKET WITH QUILL",
  "aRIGHT SQUARE BRACKET WITH QUILLaDOUBLE QUESTION MARKaQUESTION EXCLAMATION MARK",
  "aEXCLAMATION QUESTION MARKaTIRONIAN SIGN ETaREVERSED PILCROW SIGNaBLACK LEFTWARDS BULLET",
  "bRIGHTWARDS BULLETaLOW ASTERISKaREVERSED SEMICOLONaCLOSE UPaTWO ASTERISKS ALIGNED VERTICALLY",
  "aCOMMERCIAL MINUS SIGNaSWUNG DASHaINVERTED UNDERTIEaFLOWER PUNCTUATION MARK",
  "aTHREE DOT PUNCTUATIONaQUADRUPLE PRIMEaFOUR DOT PUNCTUATIONaFIVE DOT PUNCTUATION",
  "aTWO DOT PUNCTUATIONaFOUR DOT MARKaDOTTED CROSSaTRICOLONaVERTICAL FOUR DOTS",
  "aMEDIUM MATHEMATICAL SPACEaWORD JOINERaFUNCTION APPLICATIONaINVISIBLE TIMESbSEPARATORbPLUS",
  "/2066aLEFT-TO-RIGHT ISOLATEaRIGHT-TO-LEFT ISOLATEaFIRST STRONG ISOLATEaPOP DIRECTIONAL ISOLATE",
  "aINHIBIT SYMMETRIC SWAPPINGaACTIVATE SYMMETRIC SWAPPINGaINHIBIT ARABIC FORM SHAPING",
  "aACTIVATE ARABIC FORM SHAPINGaNATIONAL DIGIT SHAPESaNOMINAL DIGIT SHAPESaSUPERSCRIPT ZERO",
  "bLATIN SMALL LETTER I/2074bFOURbFIVEbSIXbSEVENbEIGHTbNINEbPLUS SIGNbMINUSbEQUALS SIGN",
  "bLEFT PARENTHESISbRIGHT PARENTHESISbLATIN SMALL LETTER NaSUBSCRIPT ZERObONEbTWObTHREEbFOUR",
  "bFIVEbSIXbSEVENbEIGHTbNINEbPLUS SIGNbMINUSbEQUALS SIGNbLEFT PARENTHESISbRIGHT PARENTHESIS/2090",
  "aLATIN SUBSCRIPT SMALL LETTER AeEeOeXeSCHWAeHeKeLeMeNePeSeT/20A0aEURO-CURRENCY SIGNaCOLON SIGN",
  "aCRUZEIRO SIGNaFRENCH FRANC SIGNaLIRA SIGNaMILL SIGNaNAIRA SIGNaPESETA SIGNaRUPEE SIGN",
  "aWON SIGNaNEW SHEQEL SIGNaDONG SIGNaEURO SIGNaKIP SIGNaTUGRIK SIGNaDRACHMA SIGN",
  "aGERMAN PENNY SIGNaPESO SIGNaGUARANI SIGNaAUSTRAL SIGNaHRYVNIA SIGNaCEDI SIGN",
  "aLIVRE TOURNOIS SIGNaSPESMILO SIGNaTENGE SIGNaINDIAN RUPEE SIGNaTURKISH LIRA SIGN",
  "aNORDIC MARK SIGNaMANAT SIGNaRUBLE SIGNaLARI SIGNaBITCOIN SIGNaSOM SIGN/20D0",
  "aCOMBINING LEFT HARPOON ABOVEbRIGHT HARPOON ABOVEbLONG VERTICAL LINE OVERLAY",
  "bSHORT VERTICAL LINE OVERLAYbANTICLOCKWISE ARROW ABOVEbCLOCKWISE ARROW ABOVEbLEFT ARROW ABOVE",
  "bRIGHT ARROW ABOVEbRING OVERLAYbCLOCKWISE RING OVERLAYbANTICLOCKWISE RING OVERLAY",
  "bTHREE DOTS ABOVEbFOUR DOTS ABOVEbENCLOSING CIRCLEcSQUAREcDIAMONDcCIRCLE BACKSLASH",
  "bLEFT RIGHT ARROW ABOVEbENCLOSING SCREENcKEYCAPcUPWARD POINTING TRIANGLE",
  "bREVERSE SOLIDUS OVERLAYbDOUBLE VERTICAL STROKE OVERLAYbANNUITY SYMBOLbTRIPLE UNDERDOT",
  "bWIDE BRIDGE ABOVEbLEFTWARDS ARROW OVERLAYbLONG DOUBLE SOLIDUS OVERLAY",
  "bRIGHTWARDS HARPOON WITH BARB DOWNWARDSbLEFTWARDS HARPOON WITH BARB DOWNWARDSbLEFT ARROW BELOW",
  "bRIGHT ARROW BELOWbASTERISK ABOVE/2100aACCOUNT OFaADDRESSED TO THE SUBJECT",
  "aDOUBLE-STRUCK CAPITAL CaDEGREE CELSIUSaCENTRE LINE SYMBOLaCARE OFaCADA UNAaEULER CONSTANT",
  "aSCRUPLEaDEGREE FAHRENHEITaSCRIPT SMALL GbCAPITAL HaBLACK-LETTER CAPITAL H",
  "aDOUBLE-STRUCK CAPITAL HaPLANCK CONSTANTcOVER TWO PIaSCRIPT CAPITAL IaBLACK-LETTER CAPITAL I",
  "aSCRIPT CAPITAL LbSMALL LaL B BAR SYMBOLaDOUBLE-STRUCK CAPITAL NaNUMERO SIGN",
  "aSOUND RECORDING COPYRIGHTaSCRIPT CAPITAL PaDOUBLE-STRUCK CAPITAL PcQaSCRIPT CAPITAL R",
  "aBLACK-LETTER CAPITAL RaDOUBLE-STRUCK CAPITAL RaPRESCRIPTION TAKEaRESPONSEaSERVICE MARK",
  "aTELEPHONE SIGNaTRADE MARK SIGNaVERSICLEaDOUBLE-STRUCK CAPITAL ZaOUNCE SIGNaOHM SIGN",
  "aINVERTED OHM SIGNaBLACK-LETTER CAPITAL ZaTURNED GREEK SMALL LETTER IOTAaKELVIN SIGN",
  "aANGSTROM SIGNaSCRIPT CAPITAL BaBLACK-LETTER CAPITAL CaESTIMATED SYMBOLaSCRIPT SMALL E",
  "bCAPITAL EcFaTURNED CAPITAL FaSCRIPT CAPITAL MbSMALL OaALEF SYMBOLaBET SYMBOLaGIMEL SYMBOL",
  "aDALET SYMBOLaINFORMATION SOURCEaROTATED CAPITAL QaFACSIMILE SIGNaDOUBLE-STRUCK SMALL PIcGAMMA",
  "bCAPITAL GAMMAcPIbN-ARY SUMMATIONaTURNED SANS-SERIF CAPITAL GdLaREVERSED SANS-SERIF CAPITAL L",
  "aTURNED SANS-SERIF CAPITAL YaDOUBLE-STRUCK ITALIC CAPITAL DcSMALL DdEdIdJaPROPERTY LINE",
  "aTURNED AMPERSANDaPER SIGNaAKTIESELSKABaTURNED SMALL FaSYMBOL FOR SAMARITAN SOURCE",
  "aVULGAR FRACTION ONE SEVENTHdNINTHdTENTHdTHIRDcTWO THIRDScONE FIFTHcTWO FIFTHScTHREE FIFTHS",
  "cFOUR FIFTHScONE SIXTHcFIVE SIXTHScONE EIGHTHcTHREE EIGHTHScFIVE EIGHTHScSEVEN EIGHTHS",
  "aFRACTION NUMERATOR ONEaROMAN NUMERAL ONEcTWOcTHREEcFOURcFIVEcSIXcSEVENcEIGHTcNINEcTENcELEVEN",
  "cTWELVEcFIFTYcONE HUNDREDcFIVE HUNDREDcONE THOUSANDaSMALL ROMAN NUMERAL ONEdTWOdTHREEdFOUR",
  "dFIVEdSIXdSEVENdEIGHTdNINEdTENdELEVENdTWELVEdFIFTYdONE HUNDREDdFIVE HUNDREDdONE THOUSAND",
  "aROMAN NUMERAL ONE THOUSAND C DcFIVE THOUSANDcTEN THOUSANDcREVERSED ONE HUNDRED",
  "aLATIN SMALL LETTER REVERSED CaROMAN NUMERAL SIX LATE FORMcFIFTY EARLY FORMdTHOUSAND",
  "cONE HUNDRED THOUSANDaVULGAR FRACTION ZERO THIRDSaTURNED DIGIT TWOcTHREE/2190aLEFTWARDS ARROW",
  "aUPWARDS ARROWaRIGHTWARDS ARROWaDOWNWARDS ARROWaLEFT RIGHT ARROWaUP DOWN ARROW",
  "aNORTH WEST ARROWbEAST ARROWaSOUTH EAST ARROWbWEST ARROWaLEFTWARDS ARROW WITH STROKE",
  "aRIGHTWARDS ARROW WITH STROKEaLEFTWARDS WAVE ARROWaRIGHTWARDS WAVE ARROW",
  "aLEFTWARDS TWO HEADED ARROWaUPWARDS TWO HEADED ARROWaRIGHTWARDS TWO HEADED ARROW",
  "aDOWNWARDS TWO HEADED ARROWaLEFTWARDS ARROW WITH TAILaRIGHTWARDS ARROW WITH TAIL",
  "aLEFTWARDS ARROW FROM BARaUPWARDS ARROW FROM BARaRIGHTWARDS ARROW FROM BAR",
  "aDOWNWARDS ARROW FROM BARaUP DOWN ARROW WITH BASEaLEFTWARDS ARROW WITH HOOK",
  "aRIGHTWARDS ARROW WITH HOOKaLEFTWARDS ARROW WITH LOOPaRIGHTWARDS ARROW WITH LOOP",
  "aLEFT RIGHT WAVE ARROWcARROW WITH STROKEaDOWNWARDS ZIGZAG ARROW",
  "aUPWARDS ARROW WITH TIP LEFTWARDSeRIGHTWARDSaDOWNWARDS ARROW WITH TIP LEFTWARDSeRIGHTWARDS",
  "aRIGHTWARDS ARROW WITH CORNER DOWNWARDSaDOWNWARDS ARROW WITH CORNER LEFTWARDS",
  "aANTICLOCKWISE TOP SEMICIRCLE ARROWaCLOCKWISE TOP SEMICIRCLE ARROW",
  "aNORTH WEST ARROW TO LONG BARaLEFTWARDS ARROW TO BAR OVER RIGHTWARDS ARROW TO BAR",
  "aANTICLOCKWISE OPEN CIRCLE ARROWaCLOCKWISE OPEN CIRCLE ARROW",
  "aLEFTWARDS HARPOON WITH BARB UPWARDSeDOWNWARDSaUPWARDS HARPOON WITH BARB RIGHTWARDSeLEFTWARDS",
  "aRIGHTWARDS HARPOON WITH BARB UPWARDSeDOWNWARDSaDOWNWARDS HARPOON WITH BARB RIGHTWARDS",
  "eLEFTWARDSaRIGHTWARDS ARROW OVER LEFTWARDS ARROWaUPWARDS ARROW LEFTWARDS OF DOWNWARDS ARROW",
  "aLEFTWARDS ARROW OVER RIGHTWARDS ARROWbPAIRED ARROWSaUPWARDS PAIRED ARROWS",
  "aRIGHTWARDS PAIRED ARROWSaDOWNWARDS PAIRED ARROWSaLEFTWARDS HARPOON OVER RIGHTWARDS HARPOON",
  "aRIGHTWARDS HARPOON OVER LEFTWARDS HARPOONaLEFTWARDS DOUBLE ARROW WITH STROKE",
  "aLEFT RIGHT DOUBLE ARROW WITH STROKEaRIGHTWARDS DOUBLE ARROW WITH STROKE",
  "aLEFTWARDS DOUBLE ARROWaUPWARDS DOUBLE ARROWaRIGHTWARDS DOUBLE ARROWaDOWNWARDS DOUBLE ARROW",
  "aLEFT RIGHT DOUBLE ARROWaUP DOWN DOUBLE ARROWaNORTH WEST DOUBLE ARROWbEAST DOUBLE ARROW",
  "aSOUTH EAST DOUBLE ARROWbWEST DOUBLE ARROWaLEFTWARDS TRIPLE ARROWaRIGHTWARDS TRIPLE ARROW",
  "aLEFTWARDS SQUIGGLE ARROWaRIGHTWARDS SQUIGGLE ARROWaUPWARDS ARROW WITH DOUBLE STROKE",
  "aDOWNWARDS ARROW WITH DOUBLE STROKEaLEFTWARDS DASHED ARROWaUPWARDS DASHED ARROW",
  "aRIGHTWARDS DASHED ARROWaDOWNWARDS DASHED ARROWaLEFTWARDS ARROW TO BARaRIGHTWARDS ARROW TO BAR",
  "aLEFTWARDS WHITE ARROWaUPWARDS WHITE ARROWaRIGHTWARDS WHITE ARROWaDOWNWARDS WHITE ARROW",
  "aUPWARDS WHITE ARROW FROM BARdON PEDESTALfWITH HORIZONTAL BARgVERTICAL BARcDOUBLE ARROW",
  "eON PEDESTALaRIGHTWARDS WHITE ARROW FROM WALLaNORTH WEST ARROW TO CORNER",
  "aSOUTH EAST ARROW TO CORNERaUP DOWN WHITE ARROWaRIGHT ARROW WITH SMALL CIRCLE",
  "aDOWNWARDS ARROW LEFTWARDS OF UPWARDS ARROWaTHREE RIGHTWARDS ARROWS",
  "aLEFTWARDS ARROW WITH VERTICAL STROKEaRIGHTWARDS ARROW WITH VERTICAL STROKE",
  "aLEFT RIGHT ARROW WITH VERTICAL STROKEaLEFTWARDS ARROW WITH DOUBLE VERTICAL STROKE",
  "aRIGHTWARDS ARROW WITH DOUBLE VERTICAL STROKEaLEFT RIGHT ARROW WITH DOUBLE VERTICAL STROKE",
  "aLEFTWARDS OPEN-HEADED ARROWaRIGHTWARDS OPEN-HEADED ARROWaLEFT RIGHT OPEN-HEADED ARROWaFOR ALL",
  "aCOMPLEMENTaPARTIAL DIFFERENTIALaTHERE EXISTSbDOES NOT EXISTaEMPTY SETaINCREMENTaNABLA",
  "aELEMENT OFaNOT AN ELEMENT OFaSMALL ELEMENT OFaCONTAINS AS MEMBERaDOES NOT CONTAIN AS MEMBER",
  "aSMALL CONTAINS AS MEMBERaEND OF PROOFaN-ARY PRODUCTbCOPRODUCTbSUMMATIONaMINUS SIGN",
  "aMINUS-OR-PLUS SIGNaDOT PLUSaDIVISION SLASHaSET MINUSaASTERISK OPERATORaRING OPERATOR",
  "aBULLET OPERATORaSQUARE ROOTaCUBE ROOTaFOURTH ROOTaPROPORTIONAL TOaINFINITYaRIGHT ANGLEaANGLE",
  "aMEASURED ANGLEaSPHERICAL ANGLEaDIVIDESaDOES NOT DIVIDEaPARALLEL TOaNOT PARALLEL TO",
  "aLOGICAL ANDbORaINTERSECTIONaUNIONaINTEGRALaDOUBLE INTEGRALaTRIPLE INTEGRALaCONTOUR INTEGRAL",
  "aSURFACE INTEGRALaVOLUME INTEGRALaCLOCKWISE INTEGRALbCONTOUR INTEGRAL",
  "aANTICLOCKWISE CONTOUR INTEGRALaTHEREFOREaBECAUSEaRATIOaPROPORTIONaDOT MINUSaEXCESS",
  "aGEOMETRIC PROPORTIONaHOMOTHETICaTILDE OPERATORaREVERSED TILDEaINVERTED LAZY SaSINE WAVE",
  "aWREATH PRODUCTaNOT TILDEaMINUS TILDEaASYMPTOTICALLY EQUAL TOaNOT ASYMPTOTICALLY EQUAL TO",
  "aAPPROXIMATELY EQUAL TObBUT NOT ACTUALLY EQUAL TOaNEITHER APPROXIMATELY NOR ACTUALLY EQUAL TO",
  "aALMOST EQUAL TOaNOT ALMOST EQUAL TOaALMOST EQUAL OR EQUAL TOaTRIPLE TILDEaALL EQUAL TO",
  "aEQUIVALENT TOaGEOMETRICALLY EQUIVALENT TOaDIFFERENCE BETWEENaAPPROACHES THE LIMIT",
  "aGEOMETRICALLY EQUAL TOaAPPROXIMATELY EQUAL TO OR THE IMAGE OF",
  "aIMAGE OF OR APPROXIMATELY EQUAL TOaCOLON EQUALSaEQUALS COLONaRING IN EQUAL TObEQUAL TO",
  "aCORRESPONDS TOaESTIMATESaEQUIANGULAR TOaSTAR EQUALSaDELTA EQUAL TOaEQUAL TO BY DEFINITION",
  "aMEASURED BYaQUESTIONED EQUAL TOaNOT EQUAL TOaIDENTICAL TOaNOT IDENTICAL TO",
  "aSTRICTLY EQUIVALENT TOaLESS-THAN OR EQUAL TOaGREATER-THAN OR EQUAL TOaLESS-THAN OVER EQUAL TO",
  "aGREATER-THAN OVER EQUAL TOaLESS-THAN BUT NOT EQUAL TOaGREATER-THAN BUT NOT EQUAL TO",
  "aMUCH LESS-THANbGREATER-THANaBETWEENaNOT EQUIVALENT TObLESS-THANbGREATER-THAN",
  "aNEITHER LESS-THAN NOR EQUAL TObGREATER-THAN NOR EQUAL TOaLESS-THAN OR EQUIVALENT TO",
  "aGREATER-THAN OR EQUIVALENT TOaNEITHER LESS-THAN NOR EQUIVALENT TO",
  "bGREATER-THAN NOR EQUIVALENT TOaLESS-THAN OR GREATER-THANaGREATER-THAN OR LESS-THAN",
  "aNEITHER LESS-THAN NOR GREATER-THANbGREATER-THAN NOR LESS-THANaPRECEDESaSUCCEEDS",
  "aPRECEDES OR EQUAL TOaSUCCEEDS OR EQUAL TOaPRECEDES OR EQUIVALENT TOaSUCCEEDS OR EQUIVALENT TO",
  "aDOES NOT PRECEDEcSUCCEEDaSUBSET OFaSUPERSET OFaNOT A SUBSET OFcSUPERSET OF",
  "aSUBSET OF OR EQUAL TOaSUPERSET OF OR EQUAL TOaNEITHER A SUBSET OF NOR EQUAL TO",
  "cSUPERSET OF NOR EQUAL TOaSUBSET OF WITH NOT EQUAL TOaSUPERSET OF WITH NOT EQUAL TOaMULTISET",
  "bMULTIPLICATIONbUNIONaSQUARE IMAGE OFbORIGINAL OFbIMAGE OF OR EQUAL TObORIGINAL OF OR EQUAL TO",
  "bCAPbCUPaCIRCLED PLUSbMINUSbTIMESbDIVISION SLASHbDOT OPERATORbRING OPERATORbASTERISK OPERATOR",
  "bEQUALSbDASHaSQUARED PLUSbMINUSbTIMESbDOT OPERATORaRIGHT TACKaLEFT TACKaDOWN TACKaUP TACK",
  "aASSERTIONaMODELSaTRUEaFORCESaTRIPLE VERTICAL BAR RIGHT TURNSTILE",
  "aDOUBLE VERTICAL BAR DOUBLE RIGHT TURNSTILEaDOES NOT PROVEaNOT TRUEaDOES NOT FORCE",
  "aNEGATED DOUBLE VERTICAL BAR DOUBLE RIGHT TURNSTILEaPRECEDES UNDER RELATION",
  "aSUCCEEDS UNDER RELATIONaNORMAL SUBGROUP OFaCONTAINS AS NORMAL SUBGROUP",
  "aNORMAL SUBGROUP OF OR EQUAL TOaCONTAINS AS NORMAL SUBGROUP OR EQUAL TOaORIGINAL OFaIMAGE OF",
  "aMULTIMAPaHERMITIAN CONJUGATE MATRIXaINTERCALATEaXORaNANDaNORaRIGHT ANGLE WITH ARCbTRIANGLE",
  "aN-ARY LOGICAL ANDcORbINTERSECTIONbUNIONaDIAMOND OPERATORaDOT OPERATORaSTAR OPERATOR",
  "aDIVISION TIMESaBOWTIEaLEFT NORMAL FACTOR SEMIDIRECT PRODUCT",
  "aRIGHT NORMAL FACTOR SEMIDIRECT PRODUCTaLEFT SEMIDIRECT PRODUCTaRIGHT SEMIDIRECT PRODUCT",
  "aREVERSED TILDE EQUALSaCURLY LOGICAL ORcANDaDOUBLE SUBSETbSUPERSETbINTERSECTIONbUNION",
  "aPITCHFORKaEQUAL AND PARALLEL TOaLESS-THAN WITH DOTaGREATER-THAN WITH DOTaVERY MUCH LESS-THAN",
  "cGREATER-THANaLESS-THAN EQUAL TO OR GREATER-THANaGREATER-THAN EQUAL TO OR LESS-THAN",
  "aEQUAL TO OR LESS-THANdGREATER-THANdPRECEDESdSUCCEEDSaDOES NOT PRECEDE OR EQUAL",
  "cSUCCEED OR EQUALaNOT SQUARE IMAGE OF OR EQUAL TOcORIGINAL OF OR EQUAL TO",
  "aSQUARE IMAGE OF OR NOT EQUAL TObORIGINAL OF OR NOT EQUAL TOaLESS-THAN BUT NOT EQUIVALENT TO",
  "aGREATER-THAN BUT NOT EQUIVALENT TOaPRECEDES BUT NOT EQUIVALENT TO",
  "aSUCCEEDS BUT NOT EQUIVALENT TOaNOT NORMAL SUBGROUP OFaDOES NOT CONTAIN AS NORMAL SUBGROUP",
  "aNOT NORMAL SUBGROUP OF OR EQUAL TOaDOES NOT CONTAIN AS NORMAL SUBGROUP OR EQUAL",
  "aVERTICAL ELLIPSISaMIDLINE HORIZONTAL ELLIPSISaUP RIGHT DIAGONAL ELLIPSIS",
  "aDOWN RIGHT DIAGONAL ELLIPSISaELEMENT OF WITH LONG HORIZONTAL STROKE",
  "dVERTICAL BAR AT END OF HORIZONTAL STROKE",
  "aSMALL ELEMENT OF WITH VERTICAL BAR AT END OF HORIZONTAL STROKEaELEMENT OF WITH DOT ABOVE",
  "dOVERBARaSMALL ELEMENT OF WITH OVERBARaELEMENT OF WITH UNDERBARdTWO HORIZONTAL STROKES",
  "aCONTAINS WITH LONG HORIZONTAL STROKEcVERTICAL BAR AT END OF HORIZONTAL STROKE",
  "aSMALL CONTAINS WITH VERTICAL BAR AT END OF HORIZONTAL STROKEaCONTAINS WITH OVERBAR",
  "aSMALL CONTAINS WITH OVERBARaZ NOTATION BAG MEMBERSHIPaDIAMETER SIGNaELECTRIC ARROWaHOUSE",
  "aUP ARROWHEADaDOWN ARROWHEADaPROJECTIVEaPERSPECTIVEaWAVY LINEaLEFT CEILINGaRIGHT CEILING",
  "aLEFT FLOORaRIGHT FLOORaBOTTOM RIGHT CROPbLEFT CROPaTOP RIGHT CROPbLEFT CROPaREVERSED NOT SIGN",
  "aSQUARE LOZENGEaARCaSEGMENTaSECTORaTELEPHONE RECORDERaPOSITION INDICATORaVIEWDATA SQUARE",
  "aPLACE OF INTEREST SIGNaTURNED NOT SIGNaWATCHaHOURGLASSaTOP LEFT CORNERbRIGHT CORNER",
  "aBOTTOM LEFT CORNERbRIGHT CORNERaTOP HALF INTEGRALaBOTTOM HALF INTEGRALaFROWNaSMILE",
  "aUP ARROWHEAD BETWEEN TWO HORIZONTAL BARSaOPTION KEYaERASE TO THE RIGHTaX IN A RECTANGLE BOX",
  "aKEYBOARDaLEFT-POINTING ANGLE BRACKETaRIGHT-POINTING ANGLE BRACKETaERASE TO THE LEFT",
  "aBENZENE RINGaCYLINDRICITYaALL AROUND-PROFILEaSYMMETRYaTOTAL RUNOUTaDIMENSION ORIGIN",
  "aCONICAL TAPERaSLOPEaCOUNTERBOREaCOUNTERSINKaAPL FUNCTIONAL SYMBOL I-BEAMdSQUISH QUAD",
  "dQUAD EQUALeDIVIDEeDIAMONDeJOTeCIRCLEdCIRCLE STILEeJOTdSLASH BARdBACKSLASH BARdQUAD SLASH",
  "eBACKSLASHeLESS-THANeGREATER-THANdLEFTWARDS VANEdRIGHTWARDS VANEdQUAD LEFTWARDS ARROW",
  "eRIGHTWARDS ARROWdCIRCLE BACKSLASHdDOWN TACK UNDERBARdDELTA STILEdQUAD DOWN CARETeDELTA",
  "dDOWN TACK JOTdUPWARDS VANEdQUAD UPWARDS ARROWdUP TACK OVERBARdDEL STILEdQUAD UP CARETeDEL",
  "dUP TACK JOTdDOWNWARDS VANEdQUAD DOWNWARDS ARROWdQUOTE UNDERBARdDELTA UNDERBAR",
  "dDIAMOND UNDERBARdJOT UNDERBARdCIRCLE UNDERBARdUP SHOE JOTdQUOTE QUADdCIRCLE STARdQUAD COLON",
  "dUP TACK DIAERESISdDEL DIAERESISdSTAR DIAERESISdJOT DIAERESISdCIRCLE DIAERESISdDOWN SHOE STILE",
  "dLEFT SHOE STILEdTILDE DIAERESISdGREATER-THAN DIAERESISdCOMMA BARdDEL TILDEdZILDEdSTILE TILDE",
  "dSEMICOLON UNDERBARdQUAD NOT EQUALeQUESTIONdDOWN CARET TILDEdUP CARET TILDEdIOTAdRHOdOMEGA",
  "dALPHA UNDERBARdEPSILON UNDERBARdIOTA UNDERBARdOMEGA UNDERBARdALPHAaNOT CHECK MARK",
  "aRIGHT ANGLE WITH DOWNWARDS ZIGZAG ARROWaSHOULDERED OPEN BOXaBELL SYMBOL",
  "aVERTICAL LINE WITH MIDDLE DOTaINSERTION SYMBOLaCONTINUOUS UNDERLINE SYMBOL",
  "aDISCONTINUOUS UNDERLINE SYMBOLaEMPHASIS SYMBOLaCOMPOSITION SYMBOL",
  "aWHITE SQUARE WITH CENTRE VERTICAL LINEaENTER SYMBOLaALTERNATIVE KEY SYMBOLaHELM SYMBOL",
  "aCIRCLED HORIZONTAL BAR WITH NOTCHbTRIANGLE DOWNaBROKEN CIRCLE WITH NORTHWEST ARROW",
  "aUNDO SYMBOLaMONOSTABLE SYMBOLaHYSTERESIS SYMBOLaOPEN-CIRCUIT-OUTPUT H-TYPE SYMBOL",
  "bL-TYPE SYMBOLaPASSIVE-PULL-DOWN-OUTPUT SYMBOLaPASSIVE-PULL-UP-OUTPUT SYMBOL",
  "aDIRECT CURRENT SYMBOL FORM TWOaSOFTWARE-FUNCTION SYMBOLaAPL FUNCTIONAL SYMBOL QUAD",
  "aDECIMAL SEPARATOR KEY SYMBOLaPREVIOUS PAGEaNEXT PAGEaPRINT SCREEN SYMBOLaCLEAR SCREEN SYMBOL",
  "aLEFT PARENTHESIS UPPER HOOKcEXTENSIONcLOWER HOOKaRIGHT PARENTHESIS UPPER HOOKcEXTENSION",
  "cLOWER HOOKaLEFT SQUARE BRACKET UPPER CORNERdEXTENSIONdLOWER CORNER",
  "aRIGHT SQUARE BRACKET UPPER CORNERdEXTENSIONdLOWER CORNERaLEFT CURLY BRACKET UPPER HOOK",
  "dMIDDLE PIECEdLOWER HOOKaCURLY BRACKET EXTENSIONaRIGHT CURLY BRACKET UPPER HOOKdMIDDLE PIECE",
  "dLOWER HOOKaINTEGRAL EXTENSIONaHORIZONTAL LINE EXTENSION",
  "aUPPER LEFT OR LOWER RIGHT CURLY BRACKET SECTIONbRIGHT OR LOWER LEFT CURLY BRACKET SECTION",
  "aSUMMATION TOPbBOTTOMaTOP SQUARE BRACKETaBOTTOM SQUARE BRACKETdOVER TOP SQUARE BRACKET",
  "aRADICAL SYMBOL BOTTOMaLEFT VERTICAL BOX LINEaRIGHT VERTICAL BOX LINEaHORIZONTAL SCAN LINE-1",
  "cLINE-3cLINE-7cLINE-9aDENTISTRY SYMBOL LIGHT VERTICAL AND TOP RIGHTfBOTTOM RIGHTeWITH CIRCLE",
  "dDOWN AND HORIZONTAL WITH CIRCLEdUP AND HORIZONTAL WITH CIRCLEdVERTICAL WITH TRIANGLE",
  "dDOWN AND HORIZONTAL WITH TRIANGLEdUP AND HORIZONTAL WITH TRIANGLEdVERTICAL AND WAVE",
  "dDOWN AND HORIZONTAL WITH WAVEdUP AND HORIZONTAL WITH WAVEdDOWN AND HORIZONTAL",
  "dUP AND HORIZONTALdVERTICAL AND TOP LEFTfBOTTOM LEFTaSQUARE FOOTaRETURN SYMBOLaEJECT SYMBOL",
  "aVERTICAL LINE EXTENSIONaMETRICAL BREVEbLONG OVER SHORTbSHORT OVER LONGbLONG OVER TWO SHORTS",
  "bTWO SHORTS OVER LONGdJOINEDbTRISEMEbTETRASEMEbPENTASEMEaEARTH GROUNDaFUSEaTOP PARENTHESIS",
  "aBOTTOM PARENTHESISaTOP CURLY BRACKETaBOTTOM CURLY BRACKETaTOP TORTOISE SHELL BRACKET",
  "aBOTTOM TORTOISE SHELL BRACKETaWHITE TRAPEZIUMaBENZENE RING WITH CIRCLEaSTRAIGHTNESSaFLATNESS",
  "aAC CURRENTaELECTRICAL INTERSECTIONaDECIMAL EXPONENT SYMBOL",
  "aBLACK RIGHT-POINTING DOUBLE TRIANGLEbLEFT-POINTING DOUBLE TRIANGLE",
  "bUP-POINTING DOUBLE TRIANGLEbDOWN-POINTING DOUBLE TRIANGLE",
  "bRIGHT-POINTING DOUBLE TRIANGLE WITH VERTICAL BAR",
  "bLEFT-POINTING DOUBLE TRIANGLE WITH VERTICAL BAR",
  "bRIGHT-POINTING TRIANGLE WITH DOUBLE VERTICAL BARaALARM CLOCKaSTOPWATCHaTIMER CLOCK",
  "aHOURGLASS WITH FLOWING SANDaBLACK MEDIUM LEFT-POINTING TRIANGLEcRIGHT-POINTING TRIANGLE",
  "cUP-POINTING TRIANGLEcDOWN-POINTING TRIANGLEaDOUBLE VERTICAL BARaBLACK SQUARE FOR STOP",
  "bCIRCLE FOR RECORDaPOWER SYMBOLbON-OFF SYMBOLbON SYMBOLbSLEEP SYMBOLaOBSERVER EYE SYMBOL",
  "aSYMBOL FOR NULLcSTART OF HEADINGeTEXTcEND OF TEXTeTRANSMISSIONcENQUIRYcACKNOWLEDGEcBELL",
  "cBACKSPACEcHORIZONTAL TABULATIONcLINE FEEDcVERTICAL TABULATIONcFORM FEEDcCARRIAGE RETURN",
  "cSHIFT OUTdINcDATA LINK ESCAPEcDEVICE CONTROL ONEeTWOeTHREEeFOURcNEGATIVE ACKNOWLEDGE",
  "cSYNCHRONOUS IDLEcEND OF TRANSMISSION BLOCKcCANCELcEND OF MEDIUMcSUBSTITUTEcESCAPE",
  "cFILE SEPARATORcGROUP SEPARATORcRECORD SEPARATORcUNIT SEPARATORcSPACEcDELETEaBLANK SYMBOL",
  "aOPEN BOXaSYMBOL FOR NEWLINEcDELETE FORM TWOcSUBSTITUTE FORM TWO/2440aOCR HOOKbCHAIRbFORK",
  "bINVERTED FORKbBELT BUCKLEbBOW TIEbBRANCH BANK IDENTIFICATIONbAMOUNT OF CHECKbDASH",
  "bCUSTOMER ACCOUNT NUMBERbDOUBLE BACKSLASH/2460aCIRCLED DIGIT ONEcTWOcTHREEcFOURcFIVEcSIXcSEVEN",
  "cEIGHTcNINEbNUMBER TENcELEVENcTWELVEcTHIRTEENcFOURTEENcFIFTEENcSIXTEENcSEVENTEENcEIGHTEEN",
  "cNINETEENcTWENTYaPARENTHESIZED DIGIT ONEcTWOcTHREEcFOURcFIVEcSIXcSEVENcEIGHTcNINEbNUMBER TEN",
  "cELEVENcTWELVEcTHIRTEENcFOURTEENcFIFTEENcSIXTEENcSEVENTEENcEIGHTEENcNINETEENcTWENTY",
  "aDIGIT ONE FULL STOPbTWO FULL STOPbTHREE FULL STOPbFOUR FULL STOPbFIVE FULL STOPbSIX FULL STOP",
  "bSEVEN FULL STOPbEIGHT FULL STOPbNINE FULL STOPaNUMBER TEN FULL STOPbELEVEN FULL STOP",
  "bTWELVE FULL STOPbTHIRTEEN FULL STOPbFOURTEEN FULL STOPbFIFTEEN FULL STOPbSIXTEEN FULL STOP",
  "bSEVENTEEN FULL STOPbEIGHTEEN FULL STOPbNINETEEN FULL STOPbTWENTY FULL STOP",
  "aPARENTHESIZED LATIN SMALL LETTER AeBeCeDeEeFeGeHeIeJeKeLeMeNeOePeQeReSeTeUeVeWeXeYeZ",
  "aCIRCLED LATIN CAPITAL LETTER AeBeCeDeEeFeGeHeIeJeKeLeMeNeOePeQeReSeTeUeVeWeXeYeZ",
  "cSMALL LETTER AeBeCeDeEeFeGeHeIeJeKeLeMeNeOePeQeReSeTeUeVeWeXeYeZbDIGIT ZERO",
  "aNEGATIVE CIRCLED NUMBER ELEVENdTWELVEdTHIRTEENdFOURTEENdFIFTEENdSIXTEENdSEVENTEENdEIGHTEEN",
  "dNINETEENdTWENTYaDOUBLE CIRCLED DIGIT ONEdTWOdTHREEdFOURdFIVEdSIXdSEVENdEIGHTdNINEcNUMBER TEN",
  "aNEGATIVE CIRCLED DIGIT ZEROaBOX DRAWINGS LIGHT HORIZONTALcHEAVY HORIZONTALcLIGHT VERTICAL",
  "cHEAVY VERTICALcLIGHT TRIPLE DASH HORIZONTALcHEAVY TRIPLE DASH HORIZONTAL",
  "cLIGHT TRIPLE DASH VERTICALcHEAVY TRIPLE DASH VERTICALcLIGHT QUADRUPLE DASH HORIZONTAL",
  "cHEAVY QUADRUPLE DASH HORIZONTALcLIGHT QUADRUPLE DASH VERTICALcHEAVY QUADRUPLE DASH VERTICAL",
  "cLIGHT DOWN AND RIGHTcDOWN LIGHT AND RIGHT HEAVYdHEAVY AND RIGHT LIGHTcHEAVY DOWN AND RIGHT",
  "cLIGHT DOWN AND LEFTcDOWN LIGHT AND LEFT HEAVYdHEAVY AND LEFT LIGHTcHEAVY DOWN AND LEFT",
  "cLIGHT UP AND RIGHTcUP LIGHT AND RIGHT HEAVYdHEAVY AND RIGHT LIGHTcHEAVY UP AND RIGHT",
  "cLIGHT UP AND LEFTcUP LIGHT AND LEFT HEAVYdHEAVY AND LEFT LIGHTcHEAVY UP AND LEFT",
  "cLIGHT VERTICAL AND RIGHTcVERTICAL LIGHT AND RIGHT HEAVYcUP HEAVY AND RIGHT DOWN LIGHT",
  "cDOWN HEAVY AND RIGHT UP LIGHTcVERTICAL HEAVY AND RIGHT LIGHTcDOWN LIGHT AND RIGHT UP HEAVY",
  "cUP LIGHT AND RIGHT DOWN HEAVYcHEAVY VERTICAL AND RIGHTcLIGHT VERTICAL AND LEFT",
  "cVERTICAL LIGHT AND LEFT HEAVYcUP HEAVY AND LEFT DOWN LIGHTcDOWN HEAVY AND LEFT UP LIGHT",
  "cVERTICAL HEAVY AND LEFT LIGHTcDOWN LIGHT AND LEFT UP HEAVYcUP LIGHT AND LEFT DOWN HEAVY",
  "cHEAVY VERTICAL AND LEFTcLIGHT DOWN AND HORIZONTALcLEFT HEAVY AND RIGHT DOWN LIGHT",
  "cRIGHT HEAVY AND LEFT DOWN LIGHTcDOWN LIGHT AND HORIZONTAL HEAVYdHEAVY AND HORIZONTAL LIGHT",
  "cRIGHT LIGHT AND LEFT DOWN HEAVYcLEFT LIGHT AND RIGHT DOWN HEAVYcHEAVY DOWN AND HORIZONTAL",
  "cLIGHT UP AND HORIZONTALcLEFT HEAVY AND RIGHT UP LIGHTcRIGHT HEAVY AND LEFT UP LIGHT",
  "cUP LIGHT AND HORIZONTAL HEAVYdHEAVY AND HORIZONTAL LIGHTcRIGHT LIGHT AND LEFT UP HEAVY",
  "cLEFT LIGHT AND RIGHT UP HEAVYcHEAVY UP AND HORIZONTALcLIGHT VERTICAL AND HORIZONTAL",
  "cLEFT HEAVY AND RIGHT VERTICAL LIGHTcRIGHT HEAVY AND LEFT VERTICAL LIGHT",
  "cVERTICAL LIGHT AND HORIZONTAL HEAVYcUP HEAVY AND DOWN HORIZONTAL LIGHT",
  "cDOWN HEAVY AND UP HORIZONTAL LIGHTcVERTICAL HEAVY AND HORIZONTAL LIGHT",
  "cLEFT UP HEAVY AND RIGHT DOWN LIGHTcRIGHT UP HEAVY AND LEFT DOWN LIGHT",
  "cLEFT DOWN HEAVY AND RIGHT UP LIGHTcRIGHT DOWN HEAVY AND LEFT UP LIGHT",
  "cDOWN LIGHT AND UP HORIZONTAL HEAVYcUP LIGHT AND DOWN HORIZONTAL HEAVY",
  "cRIGHT LIGHT AND LEFT VERTICAL HEAVYcLEFT LIGHT AND RIGHT VERTICAL HEAVY",
  "cHEAVY VERTICAL AND HORIZONTALcLIGHT DOUBLE DASH HORIZONTALcHEAVY DOUBLE DASH HORIZONTAL",
  "cLIGHT DOUBLE DASH VERTICALcHEAVY DOUBLE DASH VERTICALcDOUBLE HORIZONTALdVERTICAL",
  "cDOWN SINGLE AND RIGHT DOUBLEdDOUBLE AND RIGHT SINGLEcDOUBLE DOWN AND RIGHT",
  "cDOWN SINGLE AND LEFT DOUBLEdDOUBLE AND LEFT SINGLEcDOUBLE DOWN AND LEFT",
  "cUP SINGLE AND RIGHT DOUBLEdDOUBLE AND RIGHT SINGLEcDOUBLE UP AND RIGHT",
  "cUP SINGLE AND LEFT DOUBLEdDOUBLE AND LEFT SINGLEcDOUBLE UP AND LEFT",
  "cVERTICAL SINGLE AND RIGHT DOUBLEdDOUBLE AND RIGHT SINGLEcDOUBLE VERTICAL AND RIGHT",
  "cVERTICAL SINGLE AND LEFT DOUBLEdDOUBLE AND LEFT SINGLEcDOUBLE VERTICAL AND LEFT",
  "cDOWN SINGLE AND HORIZONTAL DOUBLEdDOUBLE AND HORIZONTAL SINGLEcDOUBLE DOWN AND HORIZONTAL",
  "cUP SINGLE AND HORIZONTAL DOUBLEdDOUBLE AND HORIZONTAL SINGLEcDOUBLE UP AND HORIZONTAL",
  "cVERTICAL SINGLE AND HORIZONTAL DOUBLEdDOUBLE AND HORIZONTAL SINGLE",
  "cDOUBLE VERTICAL AND HORIZONTALcLIGHT ARC DOWN AND RIGHTgLEFTeUP AND LEFTgRIGHT",
  "dDIAGONAL UPPER RIGHT TO LOWER LEFTfLEFT TO LOWER RIGHTeCROSSdLEFTdUPdRIGHTdDOWNcHEAVY LEFTdUP",
  "dRIGHTdDOWNcLIGHT LEFT AND HEAVY RIGHTdUP AND HEAVY DOWNcHEAVY LEFT AND LIGHT RIGHT",
  "dUP AND LIGHT DOWNaUPPER HALF BLOCKaLOWER ONE EIGHTH BLOCKcQUARTER BLOCKbTHREE EIGHTHS BLOCK",
  "bHALF BLOCKbFIVE EIGHTHS BLOCKbTHREE QUARTERS BLOCKbSEVEN EIGHTHS BLOCKaFULL BLOCK",
  "aLEFT SEVEN EIGHTHS BLOCKbTHREE QUARTERS BLOCKbFIVE EIGHTHS BLOCKbHALF BLOCK",
  "bTHREE EIGHTHS BLOCKbONE QUARTER BLOCKcEIGHTH BLOCKaRIGHT HALF BLOCKaLIGHT SHADEaMEDIUM SHADE",
  "aDARK SHADEaUPPER ONE EIGHTH BLOCKaRIGHT ONE EIGHTH BLOCKaQUADRANT LOWER LEFTcRIGHTbUPPER LEFT",
  "dAND LOWER LEFT AND LOWER RIGHTfRIGHTeUPPER RIGHT AND LOWER LEFTiRIGHTcRIGHTdAND LOWER LEFT",
  "gAND LOWER RIGHTaBLACK SQUAREaWHITE SQUAREcWITH ROUNDED CORNERScCONTAINING BLACK SMALL SQUARE",
  "aSQUARE WITH HORIZONTAL FILLcVERTICAL FILLcORTHOGONAL CROSSHATCH FILL",
  "cUPPER LEFT TO LOWER RIGHT FILLdRIGHT TO LOWER LEFT FILLcDIAGONAL CROSSHATCH FILL",
  "aBLACK SMALL SQUAREaWHITE SMALL SQUAREaBLACK RECTANGLEaWHITE RECTANGLE",
  "aBLACK VERTICAL RECTANGLEaWHITE VERTICAL RECTANGLEaBLACK PARALLELOGRAMaWHITE PARALLELOGRAM",
  "aBLACK UP-POINTING TRIANGLEaWHITE UP-POINTING TRIANGLEaBLACK UP-POINTING SMALL TRIANGLE",
  "aWHITE UP-POINTING SMALL TRIANGLEaBLACK RIGHT-POINTING TRIANGLEaWHITE RIGHT-POINTING TRIANGLE",
  "aBLACK RIGHT-POINTING SMALL TRIANGLEaWHITE RIGHT-POINTING SMALL TRIANGLE",
  "aBLACK RIGHT-POINTING POINTERaWHITE RIGHT-POINTING POINTERaBLACK DOWN-POINTING TRIANGLE",
  "aWHITE DOWN-POINTING TRIANGLEaBLACK DOWN-POINTING SMALL TRIANGLE",
  "aWHITE DOWN-POINTING SMALL TRIANGLEaBLACK LEFT-POINTING TRIANGLEaWHITE LEFT-POINTING TRIANGLE",
  "aBLACK LEFT-POINTING SMALL TRIANGLEaWHITE LEFT-POINTING SMALL TRIANGLE",
  "aBLACK LEFT-POINTING POINTERaWHITE LEFT-POINTING POINTERaBLACK DIAMONDaWHITE DIAMOND",
  "cCONTAINING BLACK SMALL DIAMONDaFISHEYEaLOZENGEaWHITE CIRCLEaDOTTED CIRCLE",
  "aCIRCLE WITH VERTICAL FILLaBULLSEYEaBLACK CIRCLEaCIRCLE WITH LEFT HALF BLACKcRIGHT HALF BLACK",
  "cLOWER HALF BLACKcUPPER HALF BLACKdRIGHT QUADRANT BLACKcALL BUT UPPER LEFT QUADRANT BLACK",
  "aLEFT HALF BLACK CIRCLEaRIGHT HALF BLACK CIRCLEaINVERSE BULLETbWHITE CIRCLE",
  "aUPPER HALF INVERSE WHITE CIRCLEaLOWER HALF INVERSE WHITE CIRCLE",
  "aUPPER LEFT QUADRANT CIRCULAR ARCbRIGHT QUADRANT CIRCULAR ARC",
  "aLOWER RIGHT QUADRANT CIRCULAR ARCbLEFT QUADRANT CIRCULAR ARCaUPPER HALF CIRCLE",
  "aLOWER HALF CIRCLEaBLACK LOWER RIGHT TRIANGLEcLEFT TRIANGLEbUPPER LEFT TRIANGLEcRIGHT TRIANGLE",
  "aWHITE BULLETaSQUARE WITH LEFT HALF BLACKcRIGHT HALF BLACKcUPPER LEFT DIAGONAL HALF BLACK",
  "cLOWER RIGHT DIAGONAL HALF BLACKaWHITE SQUARE WITH VERTICAL BISECTING LINE",
  "bUP-POINTING TRIANGLE WITH DOTaUP-POINTING TRIANGLE WITH LEFT HALF BLACKdRIGHT HALF BLACK",
  "aLARGE CIRCLEaWHITE SQUARE WITH UPPER LEFT QUADRANTdLOWER LEFT QUADRANTeRIGHT QUADRANT",
  "dUPPER RIGHT QUADRANTbCIRCLE WITH UPPER LEFT QUADRANTdLOWER LEFT QUADRANTeRIGHT QUADRANT",
  "dUPPER RIGHT QUADRANTaUPPER LEFT TRIANGLEbRIGHT TRIANGLEaLOWER LEFT TRIANGLE",
  "aWHITE MEDIUM SQUAREaBLACK MEDIUM SQUAREaWHITE MEDIUM SMALL SQUAREaBLACK MEDIUM SMALL SQUARE",
  "aLOWER RIGHT TRIANGLEaBLACK SUN WITH RAYSaCLOUDaUMBRELLAaSNOWMANaCOMETaBLACK STARaWHITE STAR",
  "aLIGHTNINGaTHUNDERSTORMaSUNaASCENDING NODEaDESCENDING NODEaCONJUNCTIONaOPPOSITION",
  "aBLACK TELEPHONEaWHITE TELEPHONEaBALLOT BOXcWITH CHECKdXaSALTIREaUMBRELLA WITH RAIN DROPS",
  "aHOT BEVERAGEaWHITE SHOGI PIECEaBLACK SHOGI PIECEaSHAMROCK",
  "aREVERSED ROTATED FLORAL HEART BULLETaBLACK LEFT POINTING INDEXbRIGHT POINTING INDEX",
  "aWHITE LEFT POINTING INDEXbUP POINTING INDEXbRIGHT POINTING INDEXbDOWN POINTING INDEX",
  "aSKULL AND CROSSBONESaCAUTION SIGNaRADIOACTIVE SIGNaBIOHAZARD SIGNaCADUCEUSaANKH",
  "aORTHODOX CROSSaCHI RHOaCROSS OF LORRAINEcJERUSALEMaSTAR AND CRESCENTaFARSI SYMBOLaADI SHAKTI",
  "aHAMMER AND SICKLEaPEACE SYMBOLaYIN YANGaTRIGRAM FOR HEAVENcLAKEcFIREcTHUNDERcWINDcWATER",
  "cMOUNTAINcEARTHaWHEEL OF DHARMAaWHITE FROWNING FACEbSMILING FACEaBLACK SMILING FACE",
  "aWHITE SUN WITH RAYSaFIRST QUARTER MOONaLAST QUARTER MOONaMERCURYaFEMALE SIGNaEARTHaMALE SIGN",
  "aJUPITERaSATURNaURANUSaNEPTUNEaPLUTOaARIESaTAURUSaGEMINIaCANCERaLEOaVIRGOaLIBRAaSCORPIUS",
  "aSAGITTARIUSaCAPRICORNaAQUARIUSaPISCESaWHITE CHESS KINGcQUEENcROOKcBISHOPcKNIGHTcPAWN",
  "aBLACK CHESS KINGcQUEENcROOKcBISHOPcKNIGHTcPAWNbSPADE SUITaWHITE HEART SUITbDIAMOND SUIT",
  "aBLACK CLUB SUITaWHITE SPADE SUITaBLACK HEART SUITbDIAMOND SUITaWHITE CLUB SUITaHOT SPRINGS",
  "aQUARTER NOTEaEIGHTH NOTEaBEAMED EIGHTH NOTESbSIXTEENTH NOTESaMUSIC FLAT SIGNbNATURAL SIGN",
  "bSHARP SIGNaWEST SYRIAC CROSSaEAST SYRIAC CROSSaUNIVERSAL RECYCLING SYMBOL",
  "aRECYCLING SYMBOL FOR TYPE-1 PLASTICSdTYPE-2 PLASTICSdTYPE-3 PLASTICSdTYPE-4 PLASTICS",
  "dTYPE-5 PLASTICSdTYPE-6 PLASTICSdTYPE-7 PLASTICSdGENERIC MATERIALS",
  "aBLACK UNIVERSAL RECYCLING SYMBOLaRECYCLED PAPER SYMBOLaPARTIALLY-RECYCLED PAPER SYMBOL",
  "aPERMANENT PAPER SIGNaWHEELCHAIR SYMBOLaDIE FACE-1bFACE-2bFACE-3bFACE-4bFACE-5bFACE-6",
  "aWHITE CIRCLE WITH DOT RIGHTdTWO DOTSaBLACK CIRCLE WITH WHITE DOT RIGHTdTWO WHITE DOTS",
  "aMONOGRAM FOR YANGcYINaDIGRAM FOR GREATER YANGcLESSER YINdYANGcGREATER YINaWHITE FLAG",
  "aBLACK FLAGaHAMMER AND PICKaANCHORaCROSSED SWORDSaSTAFF OF AESCULAPIUSaSCALESaALEMBICaFLOWER",
  "aGEARaSTAFF OF HERMESaATOM SYMBOLaFLEUR-DE-LISaOUTLINED WHITE STAR",
  "aTHREE LINES CONVERGING RIGHTdLEFTaWARNING SIGNaHIGH VOLTAGE SIGNaDOUBLED FEMALE SIGN",
  "bMALE SIGNaINTERLOCKED FEMALE AND MALE SIGNaMALE AND FEMALE SIGNbWITH STROKE SIGN",
  "dAND MALE AND FEMALE SIGNaVERTICAL MALE WITH STROKE SIGNaHORIZONTAL MALE WITH STROKE SIGN",
  "aMEDIUM WHITE CIRCLEbBLACK CIRCLEbSMALL WHITE CIRCLEaMARRIAGE SYMBOLaDIVORCE SYMBOL",
  "aUNMARRIED PARTNERSHIP SYMBOLaCOFFINaFUNERAL URNaNEUTERaCERESaPALLASaJUNOaVESTAaCHIRON",
  "aBLACK MOON LILITHaSEXTILEaSEMISEXTILEaQUINCUNXaSESQUIQUADRATEaSOCCER BALLaBASEBALL",
  "aSQUARED KEYaWHITE DRAUGHTS MANcKINGaBLACK DRAUGHTS MANcKINGaSNOWMAN WITHOUT SNOW",
  "aSUN BEHIND CLOUDaRAINaBLACK SNOWMANaTHUNDER CLOUD AND RAINaTURNED WHITE SHOGI PIECE",
  "bBLACK SHOGI PIECEaWHITE DIAMOND IN SQUAREaCROSSING LANESaDISABLED CARaOPHIUCHUSaPICK",
  "aCAR SLIDINGaHELMET WITH WHITE CROSSaCIRCLED CROSSING LANESaCHAINSaNO ENTRY",
  "aALTERNATE ONE-WAY LEFT WAY TRAFFICaBLACK TWO-WAY LEFT WAY TRAFFIC",
  "aWHITE TWO-WAY LEFT WAY TRAFFICaBLACK LEFT LANE MERGEaWHITE LEFT LANE MERGEaDRIVE SLOW SIGN",
  "aHEAVY WHITE DOWN-POINTING TRIANGLEaLEFT CLOSED ENTRYaSQUARED SALTIRE",
  "aFALLING DIAGONAL IN WHITE CIRCLE IN BLACK SQUAREaBLACK TRUCKaRESTRICTED LEFT ENTRY-1cENTRY-2",
  "aASTRONOMICAL SYMBOL FOR URANUSaHEAVY CIRCLE WITH STROKE AND TWO DOTS ABOVEaPENTAGRAM",
  "aRIGHT-HANDED INTERLACED PENTAGRAMaLEFT-HANDED INTERLACED PENTAGRAMaINVERTED PENTAGRAM",
  "aBLACK CROSS ON SHIELDaSHINTO SHRINEaCHURCHaCASTLEaHISTORIC SITEaGEAR WITHOUT HUBbWITH HANDLES",
  "aMAP SYMBOL FOR LIGHTHOUSEaMOUNTAINaUMBRELLA ON GROUNDaFOUNTAINaFLAG IN HOLEaFERRYaSAILBOAT",
  "aSQUARE FOUR CORNERSaSKIERaICE SKATEaPERSON WITH BALLaTENTaJAPANESE BANK SYMBOL",
  "aHEADSTONE GRAVEYARD SYMBOLaFUEL PUMPaCUP ON BLACK SQUARE",
  "aWHITE FLAG WITH HORIZONTAL MIDDLE BLACK STRIPEaBLACK SAFETY SCISSORSaUPPER BLADE SCISSORS",
  "aBLACK SCISSORSaLOWER BLADE SCISSORSaWHITE SCISSORSbHEAVY CHECK MARKaTELEPHONE LOCATION SIGN",
  "aTAPE DRIVEaAIRPLANEaENVELOPEaRAISED FISTbHANDaVICTORY HANDaWRITING HANDaLOWER RIGHT PENCIL",
  "aPENCILaUPPER RIGHT PENCILaWHITE NIBaBLACK NIBaCHECK MARKaHEAVY CHECK MARKaMULTIPLICATION X",
  "aHEAVY MULTIPLICATION XaBALLOT XaHEAVY BALLOT XaOUTLINED GREEK CROSSaHEAVY GREEK CROSS",
  "aOPEN CENTRE CROSSaHEAVY OPEN CENTRE CROSSaLATIN CROSSaSHADOWED WHITE LATIN CROSS",
  "aOUTLINED LATIN CROSSaMALTESE CROSSaSTAR OF DAVIDaFOUR TEARDROP-SPOKED ASTERISK",
  "bBALLOON-SPOKED ASTERISKaHEAVY FOUR BALLOON-SPOKED ASTERISKaFOUR CLUB-SPOKED ASTERISK",
  "aBLACK FOUR POINTED STARaWHITE FOUR POINTED STARaSPARKLESaSTRESS OUTLINED WHITE STAR",
  "aCIRCLED WHITE STARaOPEN CENTRE BLACK STARaBLACK CENTRE WHITE STARaOUTLINED BLACK STAR",
  "aHEAVY OUTLINED BLACK STARaPINWHEEL STARaSHADOWED WHITE STARaHEAVY ASTERISK",
  "aOPEN CENTRE ASTERISKaEIGHT SPOKED ASTERISKbPOINTED BLACK STARcPINWHEEL STAR",
  "aSIX POINTED BLACK STARaEIGHT POINTED RECTILINEAR BLACK STAR",
  "aHEAVY EIGHT POINTED RECTILINEAR BLACK STARaTWELVE POINTED BLACK STARaSIXTEEN POINTED ASTERISK",
  "aTEARDROP-SPOKED ASTERISKaOPEN CENTRE TEARDROP-SPOKED ASTERISKaHEAVY TEARDROP-SPOKED ASTERISK",
  "aSIX PETALLED BLACK AND WHITE FLORETTEaBLACK FLORETTEaWHITE FLORETTE",
  "aEIGHT PETALLED OUTLINED BLACK FLORETTEaCIRCLED OPEN CENTRE EIGHT POINTED STAR",
  "aHEAVY TEARDROP-SPOKED PINWHEEL ASTERISKaSNOWFLAKEaTIGHT TRIFOLIATE SNOWFLAKE",
  "aHEAVY CHEVRON SNOWFLAKEaSPARKLEaHEAVY SPARKLEaBALLOON-SPOKED ASTERISK",
  "aEIGHT TEARDROP-SPOKED PROPELLER ASTERISKaHEAVY EIGHT TEARDROP-SPOKED PROPELLER ASTERISK",
  "aCROSS MARKaSHADOWED WHITE CIRCLEaNEGATIVE SQUARED CROSS MARK",
  "aLOWER RIGHT DROP-SHADOWED WHITE SQUAREaUPPER RIGHT DROP-SHADOWED WHITE SQUARE",
  "aLOWER RIGHT SHADOWED WHITE SQUAREaUPPER RIGHT SHADOWED WHITE SQUARE",
  "aBLACK QUESTION MARK ORNAMENTaWHITE QUESTION MARK ORNAMENTbEXCLAMATION MARK ORNAMENT",
  "aBLACK DIAMOND MINUS WHITE XaHEAVY EXCLAMATION MARK SYMBOLaLIGHT VERTICAL BAR",
  "aMEDIUM VERTICAL BARaHEAVY VERTICAL BARbSINGLE TURNED COMMA QUOTATION MARK ORNAMENT",
  "cCOMMA QUOTATION MARK ORNAMENTbDOUBLE TURNED COMMA QUOTATION MARK ORNAMENT",
  "cCOMMA QUOTATION MARK ORNAMENTbLOW SINGLE COMMA QUOTATION MARK ORNAMENT",
  "cDOUBLE COMMA QUOTATION MARK ORNAMENTaCURVED STEM PARAGRAPH SIGN ORNAMENT",
  "aHEAVY EXCLAMATION MARK ORNAMENTbHEART EXCLAMATION MARK ORNAMENTbBLACK HEART",
  "aROTATED HEAVY BLACK HEART BULLETaFLORAL HEARTaROTATED FLORAL HEART BULLET",
  "aMEDIUM LEFT PARENTHESIS ORNAMENTbRIGHT PARENTHESIS ORNAMENT",
  "bFLATTENED LEFT PARENTHESIS ORNAMENTcRIGHT PARENTHESIS ORNAMENT",
  "bLEFT-POINTING ANGLE BRACKET ORNAMENTbRIGHT-POINTING ANGLE BRACKET ORNAMENT",
  "aHEAVY LEFT-POINTING ANGLE QUOTATION MARK ORNAMENT",
  "bRIGHT-POINTING ANGLE QUOTATION MARK ORNAMENTbLEFT-POINTING ANGLE BRACKET ORNAMENT",
  "bRIGHT-POINTING ANGLE BRACKET ORNAMENTaLIGHT LEFT TORTOISE SHELL BRACKET ORNAMENT",
  "bRIGHT TORTOISE SHELL BRACKET ORNAMENTaMEDIUM LEFT CURLY BRACKET ORNAMENT",
  "bRIGHT CURLY BRACKET ORNAMENTaDINGBAT NEGATIVE CIRCLED DIGIT ONEeTWOeTHREEeFOUReFIVEeSIXeSEVEN",
  "eEIGHTeNINEdNUMBER TENbCIRCLED SANS-SERIF DIGIT ONEeTWOeTHREEeFOUReFIVEeSIXeSEVENeEIGHTeNINE",
  "dNUMBER TENbNEGATIVE CIRCLED SANS-SERIF DIGIT ONEfTWOfTHREEfFOURfFIVEfSIXfSEVENfEIGHTfNINE",
  "eNUMBER TENaHEAVY WIDE-HEADED RIGHTWARDS ARROWbPLUS SIGNbMINUS SIGNbDIVISION SIGN",
  "bSOUTH EAST ARROWbRIGHTWARDS ARROWbNORTH EAST ARROWaDRAFTING POINT RIGHTWARDS ARROW",
  "aHEAVY ROUND-TIPPED RIGHTWARDS ARROWaTRIANGLE-HEADED RIGHTWARDS ARROW",
  "aHEAVY TRIANGLE-HEADED RIGHTWARDS ARROWaDASHED TRIANGLE-HEADED RIGHTWARDS ARROW",
  "aHEAVY DASHED TRIANGLE-HEADED RIGHTWARDS ARROWaBLACK RIGHTWARDS ARROW",
  "aTHREE-D TOP-LIGHTED RIGHTWARDS ARROWHEADbBOTTOM-LIGHTED RIGHTWARDS ARROWHEAD",
  "aBLACK RIGHTWARDS ARROWHEADaHEAVY BLACK CURVED DOWNWARDS AND RIGHTWARDS ARROW",
  "dUPWARDS AND RIGHTWARDS ARROWaSQUAT BLACK RIGHTWARDS ARROW",
  "aHEAVY CONCAVE-POINTED BLACK RIGHTWARDS ARROWaRIGHT-SHADED WHITE RIGHTWARDS ARROW",
  "aLEFT-SHADED WHITE RIGHTWARDS ARROWaBACK-TILTED SHADOWED WHITE RIGHTWARDS ARROW",
  "aFRONT-TILTED SHADOWED WHITE RIGHTWARDS ARROW",
  "aHEAVY LOWER RIGHT-SHADOWED WHITE RIGHTWARDS ARROWbUPPER RIGHT-SHADOWED WHITE RIGHTWARDS ARROW",
  "aNOTCHED LOWER RIGHT-SHADOWED WHITE RIGHTWARDS ARROWaCURLY LOOP",
  "aNOTCHED UPPER RIGHT-SHADOWED WHITE RIGHTWARDS ARROWaCIRCLED HEAVY WHITE RIGHTWARDS ARROW",
  "aWHITE-FEATHERED RIGHTWARDS ARROWaBLACK-FEATHERED SOUTH EAST ARROWbRIGHTWARDS ARROW",
  "bNORTH EAST ARROWaHEAVY BLACK-FEATHERED SOUTH EAST ARROWcRIGHTWARDS ARROWcNORTH EAST ARROW",
  "aTEARDROP-BARBED RIGHTWARDS ARROWaHEAVY TEARDROP-SHANKED RIGHTWARDS ARROW",
  "aWEDGE-TAILED RIGHTWARDS ARROWaHEAVY WEDGE-TAILED RIGHTWARDS ARROW",
  "aOPEN-OUTLINED RIGHTWARDS ARROWaDOUBLE CURLY LOOPaTHREE DIMENSIONAL ANGLE",
  "aWHITE TRIANGLE CONTAINING SMALL WHITE TRIANGLEaPERPENDICULARaOPEN SUBSETbSUPERSET",
  "aLEFT S-SHAPED BAG DELIMITERaRIGHT S-SHAPED BAG DELIMITERaOR WITH DOT INSIDE",
  "aREVERSE SOLIDUS PRECEDING SUBSETaSUPERSET PRECEDING SOLIDUS",
  "aVERTICAL BAR WITH HORIZONTAL STROKEaMATHEMATICAL RISING DIAGONALaLONG DIVISION",
  "aMATHEMATICAL FALLING DIAGONALaSQUARED LOGICAL ANDcORaWHITE DIAMOND WITH CENTRED DOT",
  "aAND WITH DOTaELEMENT OF OPENING UPWARDSaLOWER RIGHT CORNER WITH DOT",
  "aUPPER LEFT CORNER WITH DOTaLEFT OUTER JOINaRIGHT OUTER JOINaFULL OUTER JOINaLARGE UP TACK",
  "bDOWN TACKaLEFT AND RIGHT DOUBLE TURNSTILEdTACKbMULTIMAPaLONG RIGHT TACKbLEFT TACK",
  "aUP TACK WITH CIRCLE ABOVEaLOZENGE DIVIDED BY HORIZONTAL RULEaWHITE CONCAVE-SIDED DIAMOND",
  "dWITH LEFTWARDS TICKeRIGHTWARDS TICKbSQUARE WITH LEFTWARDS TICKdRIGHTWARDS TICK",
  "aMATHEMATICAL LEFT WHITE SQUARE BRACKETbRIGHT WHITE SQUARE BRACKETbLEFT ANGLE BRACKET",
  "bRIGHT ANGLE BRACKETbLEFT DOUBLE ANGLE BRACKETbRIGHT DOUBLE ANGLE BRACKET",
  "bLEFT WHITE TORTOISE SHELL BRACKETbRIGHT WHITE TORTOISE SHELL BRACKET",
  "bLEFT FLATTENED PARENTHESISbRIGHT FLATTENED PARENTHESISaUPWARDS QUADRUPLE ARROW",
  "aDOWNWARDS QUADRUPLE ARROWaANTICLOCKWISE GAPPED CIRCLE ARROWaCLOCKWISE GAPPED CIRCLE ARROW",
  "aRIGHT ARROW WITH CIRCLED PLUSaLONG LEFTWARDS ARROWbRIGHTWARDS ARROWbLEFT RIGHT ARROW",
  "bLEFTWARDS DOUBLE ARROWbRIGHTWARDS DOUBLE ARROWbLEFT RIGHT DOUBLE ARROW",
  "bLEFTWARDS ARROW FROM BARbRIGHTWARDS ARROW FROM BARbLEFTWARDS DOUBLE ARROW FROM BAR",
  "bRIGHTWARDS DOUBLE ARROW FROM BARcSQUIGGLE ARROWaBRAILLE PATTERN BLANKcDOTS-1cDOTS-2cDOTS-12",
  "cDOTS-3cDOTS-13cDOTS-23cDOTS-123cDOTS-4cDOTS-14cDOTS-24cDOTS-124cDOTS-34cDOTS-134cDOTS-234",
  "cDOTS-1234cDOTS-5cDOTS-15cDOTS-25cDOTS-125cDOTS-35cDOTS-135cDOTS-235cDOTS-1235cDOTS-45",
  "cDOTS-145cDOTS-245cDOTS-1245cDOTS-345cDOTS-1345cDOTS-2345cDOTS-12345cDOTS-6cDOTS-16cDOTS-26",
  "cDOTS-126cDOTS-36cDOTS-136cDOTS-236cDOTS-1236cDOTS-46cDOTS-146cDOTS-246cDOTS-1246cDOTS-346",
  "cDOTS-1346cDOTS-2346cDOTS-12346cDOTS-56cDOTS-156cDOTS-256cDOTS-1256cDOTS-356cDOTS-1356",
  "cDOTS-2356cDOTS-12356cDOTS-456cDOTS-1456cDOTS-2456cDOTS-12456cDOTS-3456cDOTS-13456cDOTS-23456",
  "cDOTS-123456cDOTS-7cDOTS-17cDOTS-27cDOTS-127cDOTS-37cDOTS-137cDOTS-237cDOTS-1237cDOTS-47",
  "cDOTS-147cDOTS-247cDOTS-1247cDOTS-347cDOTS-1347cDOTS-2347cDOTS-12347cDOTS-57cDOTS-157cDOTS-257",
  "cDOTS-1257cDOTS-357cDOTS-1357cDOTS-2357cDOTS-12357cDOTS-457cDOTS-1457cDOTS-2457cDOTS-12457",
  "cDOTS-3457cDOTS-13457cDOTS-23457cDOTS-123457cDOTS-67cDOTS-167cDOTS-267cDOTS-1267cDOTS-367",
  "cDOTS-1367cDOTS-2367cDOTS-12367cDOTS-467cDOTS-1467cDOTS-2467cDOTS-12467cDOTS-3467cDOTS-13467",
  "cDOTS-23467cDOTS-123467cDOTS-567cDOTS-1567cDOTS-2567cDOTS-12567cDOTS-3567cDOTS-13567",
  "cDOTS-23567cDOTS-123567cDOTS-4567cDOTS-14567cDOTS-24567cDOTS-124567cDOTS-34567cDOTS-134567",
  "cDOTS-234567cDOTS-1234567cDOTS-8cDOTS-18cDOTS-28cDOTS-128cDOTS-38cDOTS-138cDOTS-238cDOTS-1238",
  "cDOTS-48cDOTS-148cDOTS-248cDOTS-1248cDOTS-348cDOTS-1348cDOTS-2348cDOTS-12348cDOTS-58cDOTS-158",
  "cDOTS-258cDOTS-1258cDOTS-358cDOTS-1358cDOTS-2358cDOTS-12358cDOTS-458cDOTS-1458cDOTS-2458",
  "cDOTS-12458cDOTS-3458cDOTS-13458cDOTS-23458cDOTS-123458cDOTS-68cDOTS-168cDOTS-268cDOTS-1268",
  "cDOTS-368cDOTS-1368cDOTS-2368cDOTS-12368cDOTS-468cDOTS-1468cDOTS-2468cDOTS-12468cDOTS-3468",
  "cDOTS-13468cDOTS-23468cDOTS-123468cDOTS-568cDOTS-1568cDOTS-2568cDOTS-12568cDOTS-3568",
  "cDOTS-13568cDOTS-23568cDOTS-123568cDOTS-4568cDOTS-14568cDOTS-24568cDOTS-124568cDOTS-34568",
  "cDOTS-134568cDOTS-234568cDOTS-1234568cDOTS-78cDOTS-178cDOTS-278cDOTS-1278cDOTS-378cDOTS-1378",
  "cDOTS-2378cDOTS-12378cDOTS-478cDOTS-1478cDOTS-2478cDOTS-12478cDOTS-3478cDOTS-13478cDOTS-23478",
  "cDOTS-123478cDOTS-578cDOTS-1578cDOTS-2578cDOTS-12578cDOTS-3578cDOTS-13578cDOTS-23578",
  "cDOTS-123578cDOTS-4578cDOTS-14578cDOTS-24578cDOTS-124578cDOTS-34578cDOTS-134578cDOTS-234578",
  "cDOTS-1234578cDOTS-678cDOTS-1678cDOTS-2678cDOTS-12678cDOTS-3678cDOTS-13678cDOTS-23678",
  "cDOTS-123678cDOTS-4678cDOTS-14678cDOTS-24678cDOTS-124678cDOTS-34678cDOTS-134678cDOTS-234678",
  "cDOTS-1234678cDOTS-5678cDOTS-15678cDOTS-25678cDOTS-125678cDOTS-35678cDOTS-135678cDOTS-235678",
  "cDOTS-1235678cDOTS-45678cDOTS-145678cDOTS-245678cDOTS-1245678cDOTS-345678cDOTS-1345678",
  "cDOTS-2345678cDOTS-12345678aRIGHTWARDS TWO-HEADED ARROW WITH VERTICAL STROKE",
  "eDOUBLE VERTICAL STROKEaLEFTWARDS DOUBLE ARROW WITH VERTICAL STROKE",
  "aRIGHTWARDS DOUBLE ARROW WITH VERTICAL STROKEaLEFT RIGHT DOUBLE ARROW WITH VERTICAL STROKE",
  "aRIGHTWARDS TWO-HEADED ARROW FROM BARaLEFTWARDS DOUBLE ARROW FROM BAR",
  "aRIGHTWARDS DOUBLE ARROW FROM BARaDOWNWARDS ARROW WITH HORIZONTAL STROKE",
  "aUPWARDS ARROW WITH HORIZONTAL STROKEbTRIPLE ARROWaDOWNWARDS TRIPLE ARROW",
  "aLEFTWARDS DOUBLE DASH ARROWaRIGHTWARDS DOUBLE DASH ARROWaLEFTWARDS TRIPLE DASH ARROW",
  "aRIGHTWARDS TRIPLE DASH ARROWbTWO-HEADED TRIPLE DASH ARROWbARROW WITH DOTTED STEM",
  "aUPWARDS ARROW TO BARaDOWNWARDS ARROW TO BARaRIGHTWARDS ARROW WITH TAIL WITH VERTICAL STROKE",
  "fDOUBLE VERTICAL STROKEbTWO-HEADED ARROW WITH TAILfWITH VERTICAL STROKEgDOUBLE VERTICAL STROKE",
  "aLEFTWARDS ARROW-TAILaRIGHTWARDS ARROW-TAILaLEFTWARDS DOUBLE ARROW-TAIL",
  "aRIGHTWARDS DOUBLE ARROW-TAILaLEFTWARDS ARROW TO BLACK DIAMOND",
  "aRIGHTWARDS ARROW TO BLACK DIAMONDaLEFTWARDS ARROW FROM BAR TO BLACK DIAMOND",
  "aRIGHTWARDS ARROW FROM BAR TO BLACK DIAMONDaNORTH WEST AND SOUTH EAST ARROW",
  "bEAST AND SOUTH WEST ARROWbWEST ARROW WITH HOOKbEAST ARROW WITH HOOK",
  "aSOUTH EAST ARROW WITH HOOKbWEST ARROW WITH HOOKaNORTH WEST ARROW AND NORTH EAST ARROW",
  "bEAST ARROW AND SOUTH EAST ARROWaSOUTH EAST ARROW AND SOUTH WEST ARROW",
  "bWEST ARROW AND NORTH WEST ARROWaRISING DIAGONAL CROSSING FALLING DIAGONAL",
  "aFALLING DIAGONAL CROSSING RISING DIAGONALaSOUTH EAST ARROW CROSSING NORTH EAST ARROW",
  "aNORTH EAST ARROW CROSSING SOUTH EAST ARROWaFALLING DIAGONAL CROSSING NORTH EAST ARROW",
  "aRISING DIAGONAL CROSSING SOUTH EAST ARROWaNORTH EAST ARROW CROSSING NORTH WEST ARROW",
  "bWEST ARROW CROSSING NORTH EAST ARROWaWAVE ARROW POINTING DIRECTLY RIGHT",
  "aARROW POINTING RIGHTWARDS THEN CURVING UPWARDSfDOWNWARDScDOWNWARDS THEN CURVING LEFTWARDS",
  "fRIGHTWARDSaRIGHT-SIDE ARC CLOCKWISE ARROWaLEFT-SIDE ARC ANTICLOCKWISE ARROW",
  "aTOP ARC ANTICLOCKWISE ARROWaBOTTOM ARC ANTICLOCKWISE ARROWaTOP ARC CLOCKWISE ARROW WITH MINUS",
  "cANTICLOCKWISE ARROW WITH PLUSaLOWER RIGHT SEMICIRCULAR CLOCKWISE ARROW",
  "bLEFT SEMICIRCULAR ANTICLOCKWISE ARROWaANTICLOCKWISE CLOSED CIRCLE ARROW",
  "aCLOCKWISE CLOSED CIRCLE ARROWaRIGHTWARDS ARROW ABOVE SHORT LEFTWARDS ARROW",
  "aLEFTWARDS ARROW ABOVE SHORT RIGHTWARDS ARROWaSHORT RIGHTWARDS ARROW ABOVE LEFTWARDS ARROW",
  "aRIGHTWARDS ARROW WITH PLUS BELOWaLEFTWARDS ARROW WITH PLUS BELOWaRIGHTWARDS ARROW THROUGH X",
  "aLEFT RIGHT ARROW THROUGH SMALL CIRCLEaUPWARDS TWO-HEADED ARROW FROM SMALL CIRCLE",
  "aLEFT BARB UP RIGHT BARB DOWN HARPOONcDOWN RIGHT BARB UP HARPOON",
  "aUP BARB RIGHT DOWN BARB LEFT HARPOONcLEFT DOWN BARB RIGHT HARPOON",
  "aLEFT BARB UP RIGHT BARB UP HARPOONaUP BARB RIGHT DOWN BARB RIGHT HARPOON",
  "aLEFT BARB DOWN RIGHT BARB DOWN HARPOONaUP BARB LEFT DOWN BARB LEFT HARPOON",
  "aLEFTWARDS HARPOON WITH BARB UP TO BARaRIGHTWARDS HARPOON WITH BARB UP TO BAR",
  "aUPWARDS HARPOON WITH BARB RIGHT TO BARaDOWNWARDS HARPOON WITH BARB RIGHT TO BAR",
  "aLEFTWARDS HARPOON WITH BARB DOWN TO BARaRIGHTWARDS HARPOON WITH BARB DOWN TO BAR",
  "aUPWARDS HARPOON WITH BARB LEFT TO BARaDOWNWARDS HARPOON WITH BARB LEFT TO BAR",
  "aLEFTWARDS HARPOON WITH BARB UP FROM BARaRIGHTWARDS HARPOON WITH BARB UP FROM BAR",
  "aUPWARDS HARPOON WITH BARB RIGHT FROM BARaDOWNWARDS HARPOON WITH BARB RIGHT FROM BAR",
  "aLEFTWARDS HARPOON WITH BARB DOWN FROM BARaRIGHTWARDS HARPOON WITH BARB DOWN FROM BAR",
  "aUPWARDS HARPOON WITH BARB LEFT FROM BARaDOWNWARDS HARPOON WITH BARB LEFT FROM BAR",
  "aLEFTWARDS HARPOON WITH BARB UP ABOVE LEFTWARDS HARPOON WITH BARB DOWN",
  "aUPWARDS HARPOON WITH BARB LEFT BESIDE UPWARDS HARPOON WITH BARB RIGHT",
  "aRIGHTWARDS HARPOON WITH BARB UP ABOVE RIGHTWARDS HARPOON WITH BARB DOWN",
  "aDOWNWARDS HARPOON WITH BARB LEFT BESIDE DOWNWARDS HARPOON WITH BARB RIGHT",
  "aLEFTWARDS HARPOON WITH BARB UP ABOVE RIGHTWARDS HARPOON WITH BARB UP",
  "eDOWN ABOVE RIGHTWARDS HARPOON WITH BARB DOWN",
  "aRIGHTWARDS HARPOON WITH BARB UP ABOVE LEFTWARDS HARPOON WITH BARB UP",
  "eDOWN ABOVE LEFTWARDS HARPOON WITH BARB DOWNaLEFTWARDS HARPOON WITH BARB UP ABOVE LONG DASH",
  "eDOWN BELOW LONG DASHaRIGHTWARDS HARPOON WITH BARB UP ABOVE LONG DASHeDOWN BELOW LONG DASH",
  "aUPWARDS HARPOON WITH BARB LEFT BESIDE DOWNWARDS HARPOON WITH BARB RIGHT",
  "aDOWNWARDS HARPOON WITH BARB LEFT BESIDE UPWARDS HARPOON WITH BARB RIGHT",
  "aRIGHT DOUBLE ARROW WITH ROUNDED HEADaEQUALS SIGN ABOVE RIGHTWARDS ARROW",
  "aTILDE OPERATOR ABOVE RIGHTWARDS ARROWaLEFTWARDS ARROW ABOVE TILDE OPERATOR",
  "aRIGHTWARDS ARROW ABOVE TILDE OPERATORdALMOST EQUAL TOaLESS-THAN ABOVE LEFTWARDS ARROW",
  "aLEFTWARDS ARROW THROUGH LESS-THANaGREATER-THAN ABOVE RIGHTWARDS ARROW",
  "aSUBSET ABOVE RIGHTWARDS ARROWaLEFTWARDS ARROW THROUGH SUBSETaSUPERSET ABOVE LEFTWARDS ARROW",
  "aLEFT FISH TAILaRIGHT FISH TAILaUP FISH TAILaDOWN FISH TAILaTRIPLE VERTICAL BAR DELIMITER",
  "aZ NOTATION SPOTcTYPE COLONaLEFT WHITE CURLY BRACKETaRIGHT WHITE CURLY BRACKET",
  "aLEFT WHITE PARENTHESISaRIGHT WHITE PARENTHESISaZ NOTATION LEFT IMAGE BRACKET",
  "cRIGHT IMAGE BRACKETcLEFT BINDING BRACKETcRIGHT BINDING BRACKET",
  "aLEFT SQUARE BRACKET WITH UNDERBARaRIGHT SQUARE BRACKET WITH UNDERBAR",
  "aLEFT SQUARE BRACKET WITH TICK IN TOP CORNERaRIGHT SQUARE BRACKET WITH TICK IN BOTTOM CORNER",
  "aLEFT SQUARE BRACKET WITH TICK IN BOTTOM CORNERaRIGHT SQUARE BRACKET WITH TICK IN TOP CORNER",
  "aLEFT ANGLE BRACKET WITH DOTaRIGHT ANGLE BRACKET WITH DOTaLEFT ARC LESS-THAN BRACKET",
  "aRIGHT ARC GREATER-THAN BRACKETaDOUBLE LEFT ARC GREATER-THAN BRACKET",
  "bRIGHT ARC LESS-THAN BRACKETaLEFT BLACK TORTOISE SHELL BRACKET",
  "aRIGHT BLACK TORTOISE SHELL BRACKETaDOTTED FENCEaVERTICAL ZIGZAG LINE",
  "aMEASURED ANGLE OPENING LEFTaRIGHT ANGLE VARIANT WITH SQUAREaMEASURED RIGHT ANGLE WITH DOT",
  "aANGLE WITH S INSIDEaACUTE ANGLEaSPHERICAL ANGLE OPENING LEFTdUPaTURNED ANGLEaREVERSED ANGLE",
  "aANGLE WITH UNDERBARaREVERSED ANGLE WITH UNDERBARaOBLIQUE ANGLE OPENING UPdDOWN",
  "aMEASURED ANGLE WITH OPEN ARM ENDING IN ARROW POINTING UP AND RIGHTlLEFTjDOWN AND RIGHTlLEFT",
  "jRIGHT AND UPjLEFT AND UPjRIGHT AND DOWNjLEFT AND DOWNaREVERSED EMPTY SET",
  "aEMPTY SET WITH OVERBARdSMALL CIRCLE ABOVEdRIGHT ARROW ABOVEdLEFT ARROW ABOVE",
  "aCIRCLE WITH HORIZONTAL BARaCIRCLED VERTICAL BARbPARALLELbREVERSE SOLIDUSbPERPENDICULAR",
  "aCIRCLE DIVIDED BY HORIZONTAL BAR AND TOP HALF DIVIDED BY VERTICAL BARbWITH SUPERIMPOSED X",
  "aCIRCLED ANTICLOCKWISE-ROTATED DIVISION SIGNaUP ARROW THROUGH CIRCLEaCIRCLED WHITE BULLET",
  "bBULLETbLESS-THANbGREATER-THANaCIRCLE WITH SMALL CIRCLE TO THE RIGHT",
  "cTWO HORIZONTAL STROKES TO THE RIGHTaSQUARED RISING DIAGONAL SLASHbFALLING DIAGONAL SLASH",
  "bASTERISKbSMALL CIRCLEbSQUAREaTWO JOINED SQUARESaTRIANGLE WITH DOT ABOVEcUNDERBAR",
  "aS IN TRIANGLEaTRIANGLE WITH SERIFS AT BOTTOMaRIGHT TRIANGLE ABOVE LEFT TRIANGLE",
  "aLEFT TRIANGLE BESIDE VERTICAL BARaVERTICAL BAR BESIDE RIGHT TRIANGLE",
  "aBOWTIE WITH LEFT HALF BLACKcRIGHT HALF BLACKaBLACK BOWTIEaTIMES WITH LEFT HALF BLACK",
  "cRIGHT HALF BLACKaWHITE HOURGLASSaBLACK HOURGLASSaLEFT WIGGLY FENCEaRIGHT WIGGLY FENCE",
  "aLEFT DOUBLE WIGGLY FENCEaRIGHT DOUBLE WIGGLY FENCEaINCOMPLETE INFINITYaTIE OVER INFINITY",
  "aINFINITY NEGATED WITH VERTICAL BARaDOUBLE-ENDED MULTIMAPaSQUARE WITH CONTOURED OUTLINE",
  "aINCREASES ASaSHUFFLE PRODUCTaEQUALS SIGN AND SLANTED PARALLELfWITH TILDE ABOVE",
  "aIDENTICAL TO AND SLANTED PARALLELaGLEICH STARKaTHERMODYNAMIC",
  "aDOWN-POINTING TRIANGLE WITH LEFT HALF BLACKdRIGHT HALF BLACKaBLACK DIAMOND WITH DOWN ARROW",
  "bLOZENGEaWHITE CIRCLE WITH DOWN ARROWaBLACK CIRCLE WITH DOWN ARROWaERROR-BARRED WHITE SQUARE",
  "bBLACK SQUAREbWHITE DIAMONDbBLACK DIAMONDbWHITE CIRCLEbBLACK CIRCLEaRULE-DELAYED",
  "aREVERSE SOLIDUS OPERATORaSOLIDUS WITH OVERBARaREVERSE SOLIDUS WITH HORIZONTAL STROKE",
  "aBIG SOLIDUSbREVERSE SOLIDUSaDOUBLE PLUSaTRIPLE PLUSaLEFT-POINTING CURVED ANGLE BRACKET",
  "aRIGHT-POINTING CURVED ANGLE BRACKETaTINYaMINYaN-ARY CIRCLED DOT OPERATORcPLUS OPERATOR",
  "cTIMES OPERATORbUNION OPERATOR WITH DOTePLUSbSQUARE INTERSECTION OPERATORcUNION OPERATOR",
  "aTWO LOGICAL AND OPERATORcOR OPERATORaN-ARY TIMES OPERATORaMODULO TWO SUM",
  "aSUMMATION WITH INTEGRALaQUADRUPLE INTEGRAL OPERATORaFINITE PART INTEGRAL",
  "aINTEGRAL WITH DOUBLE STROKEbAVERAGE WITH SLASHaCIRCULATION FUNCTIONaANTICLOCKWISE INTEGRATION",
  "aLINE INTEGRATION WITH RECTANGULAR PATH AROUND POLEdSEMICIRCULAR PATH AROUND POLE",
  "cNOT INCLUDING THE POLEaINTEGRAL AROUND A POINT OPERATORaQUATERNION INTEGRAL OPERATOR",
  "aINTEGRAL WITH LEFTWARDS ARROW WITH HOOKcTIMES SIGNcINTERSECTIONcUNIONcOVERBARcUNDERBARaJOIN",
  "aLARGE LEFT TRIANGLE OPERATORaZ NOTATION SCHEMA COMPOSITIONdPIPINGdPROJECTION",
  "aPLUS SIGN WITH SMALL CIRCLE ABOVEdCIRCUMFLEX ACCENT ABOVEdTILDE ABOVEdDOT BELOWdTILDE BELOW",
  "dSUBSCRIPT TWOdBLACK TRIANGLEaMINUS SIGN WITH COMMA ABOVEdDOT BELOWdFALLING DOTSdRISING DOTS",
  "aPLUS SIGN IN LEFT HALF CIRCLEdRIGHT HALF CIRCLEaVECTOR OR CROSS PRODUCT",
  "aMULTIPLICATION SIGN WITH DOT ABOVEdUNDERBARaSEMIDIRECT PRODUCT WITH BOTTOM CLOSED",
  "aSMASH PRODUCTaMULTIPLICATION SIGN IN LEFT HALF CIRCLEdRIGHT HALF CIRCLE",
  "aCIRCLED MULTIPLICATION SIGN WITH CIRCUMFLEX ACCENTaMULTIPLICATION SIGN IN DOUBLE CIRCLE",
  "aCIRCLED DIVISION SIGNaPLUS SIGN IN TRIANGLEaMINUS SIGN IN TRIANGLE",
  "aMULTIPLICATION SIGN IN TRIANGLEaINTERIOR PRODUCTaRIGHTHAND INTERIOR PRODUCT",
  "aZ NOTATION RELATIONAL COMPOSITIONaAMALGAMATION OR COPRODUCTaINTERSECTION WITH DOT",
  "aUNION WITH MINUS SIGNcOVERBARaINTERSECTION WITH OVERBARcLOGICAL ANDaUNION WITH LOGICAL OR",
  "bABOVE INTERSECTIONaINTERSECTION ABOVE UNIONaUNION ABOVE BAR ABOVE INTERSECTION",
  "aINTERSECTION ABOVE BAR ABOVE UNIONaUNION BESIDE AND JOINED WITH UNION",
  "aINTERSECTION BESIDE AND JOINED WITH INTERSECTIONaCLOSED UNION WITH SERIFS",
  "bINTERSECTION WITH SERIFSaDOUBLE SQUARE INTERSECTIONcUNION",
  "aCLOSED UNION WITH SERIFS AND SMASH PRODUCTaLOGICAL AND WITH DOT ABOVEbOR WITH DOT ABOVE",
  "aDOUBLE LOGICAL ANDcORaTWO INTERSECTING LOGICAL ANDdORaSLOPING LARGE ORcAND",
  "aLOGICAL OR OVERLAPPING LOGICAL ANDbAND WITH MIDDLE STEMbOR WITH MIDDLE STEM",
  "bAND WITH HORIZONTAL DASHbOR WITH HORIZONTAL DASHbAND WITH DOUBLE OVERBARdUNDERBAR",
  "dDOUBLE UNDERBARaSMALL VEE WITH UNDERBARaLOGICAL OR WITH DOUBLE OVERBAReUNDERBAR",
  "aZ NOTATION DOMAIN ANTIRESTRICTIONcRANGE ANTIRESTRICTIONaEQUALS SIGN WITH DOT BELOW",
  "aIDENTICAL WITH DOT ABOVEaTRIPLE HORIZONTAL BAR WITH DOUBLE VERTICAL STROKE",
  "eTRIPLE VERTICAL STROKEaTILDE OPERATOR WITH DOT ABOVEdRISING DOTSaSIMILAR MINUS SIMILAR",
  "aCONGRUENT WITH DOT ABOVEaEQUALS WITH ASTERISKaALMOST EQUAL TO WITH CIRCUMFLEX ACCENT",
  "aAPPROXIMATELY EQUAL OR EQUAL TOaEQUALS SIGN ABOVE PLUS SIGNaPLUS SIGN ABOVE EQUALS SIGN",
  "aEQUALS SIGN ABOVE TILDE OPERATORaDOUBLE COLON EQUALaTWO CONSECUTIVE EQUALS SIGNS",
  "aTHREE CONSECUTIVE EQUALS SIGNSaEQUALS SIGN WITH TWO DOTS ABOVE AND TWO DOTS BELOW",
  "aEQUIVALENT WITH FOUR DOTS ABOVEaLESS-THAN WITH CIRCLE INSIDEaGREATER-THAN WITH CIRCLE INSIDE",
  "aLESS-THAN WITH QUESTION MARK ABOVEaGREATER-THAN WITH QUESTION MARK ABOVE",
  "aLESS-THAN OR SLANTED EQUAL TOaGREATER-THAN OR SLANTED EQUAL TO",
  "aLESS-THAN OR SLANTED EQUAL TO WITH DOT INSIDE",
  "aGREATER-THAN OR SLANTED EQUAL TO WITH DOT INSIDEaLESS-THAN OR SLANTED EQUAL TO WITH DOT ABOVE",
  "aGREATER-THAN OR SLANTED EQUAL TO WITH DOT ABOVE",
  "aLESS-THAN OR SLANTED EQUAL TO WITH DOT ABOVE RIGHT",
  "aGREATER-THAN OR SLANTED EQUAL TO WITH DOT ABOVE LEFTaLESS-THAN OR APPROXIMATE",
  "aGREATER-THAN OR APPROXIMATEaLESS-THAN AND SINGLE-LINE NOT EQUAL TO",
  "aGREATER-THAN AND SINGLE-LINE NOT EQUAL TOaLESS-THAN AND NOT APPROXIMATE",
  "aGREATER-THAN AND NOT APPROXIMATEaLESS-THAN ABOVE DOUBLE-LINE EQUAL ABOVE GREATER-THAN",
  "aGREATER-THAN ABOVE DOUBLE-LINE EQUAL ABOVE LESS-THANaLESS-THAN ABOVE SIMILAR OR EQUAL",
  "aGREATER-THAN ABOVE SIMILAR OR EQUALaLESS-THAN ABOVE SIMILAR ABOVE GREATER-THAN",
  "aGREATER-THAN ABOVE SIMILAR ABOVE LESS-THAN",
  "aLESS-THAN ABOVE GREATER-THAN ABOVE DOUBLE-LINE EQUAL",
  "aGREATER-THAN ABOVE LESS-THAN ABOVE DOUBLE-LINE EQUAL",
  "aLESS-THAN ABOVE SLANTED EQUAL ABOVE GREATER-THAN ABOVE SLANTED EQUAL",
  "aGREATER-THAN ABOVE SLANTED EQUAL ABOVE LESS-THAN ABOVE SLANTED EQUAL",
  "aSLANTED EQUAL TO OR LESS-THANeGREATER-THANeLESS-THAN WITH DOT INSIDE",
  "eGREATER-THAN WITH DOT INSIDEaDOUBLE-LINE EQUAL TO OR LESS-THANeGREATER-THAN",
  "bSLANTED EQUAL TO OR LESS-THANfGREATER-THANaSIMILAR OR LESS-THANcGREATER-THAN",
  "bABOVE LESS-THAN ABOVE EQUALS SIGNcGREATER-THAN ABOVE EQUALS SIGNaDOUBLE NESTED LESS-THAN",
  "cGREATER-THANcLESS-THAN WITH UNDERBARaGREATER-THAN OVERLAPPING LESS-THANbBESIDE LESS-THAN",
  "aLESS-THAN CLOSED BY CURVEaGREATER-THAN CLOSED BY CURVE",
  "aLESS-THAN CLOSED BY CURVE ABOVE SLANTED EQUAL",
  "aGREATER-THAN CLOSED BY CURVE ABOVE SLANTED EQUALaSMALLER THANaLARGER THAN",
  "aSMALLER THAN OR EQUAL TOaLARGER THAN OR EQUAL TOaEQUALS SIGN WITH BUMPY ABOVE",
  "aPRECEDES ABOVE SINGLE-LINE EQUALS SIGNaSUCCEEDS ABOVE SINGLE-LINE EQUALS SIGN",
  "aPRECEDES ABOVE SINGLE-LINE NOT EQUAL TOaSUCCEEDS ABOVE SINGLE-LINE NOT EQUAL TO",
  "aPRECEDES ABOVE EQUALS SIGNaSUCCEEDS ABOVE EQUALS SIGNaPRECEDES ABOVE NOT EQUAL TO",
  "aSUCCEEDS ABOVE NOT EQUAL TOaPRECEDES ABOVE ALMOST EQUAL TOaSUCCEEDS ABOVE ALMOST EQUAL TO",
  "aPRECEDES ABOVE NOT ALMOST EQUAL TOaSUCCEEDS ABOVE NOT ALMOST EQUAL TOaDOUBLE PRECEDES",
  "bSUCCEEDSaSUBSET WITH DOTaSUPERSET WITH DOTaSUBSET WITH PLUS SIGN BELOW",
  "aSUPERSET WITH PLUS SIGN BELOWaSUBSET WITH MULTIPLICATION SIGN BELOW",
  "aSUPERSET WITH MULTIPLICATION SIGN BELOWaSUBSET OF OR EQUAL TO WITH DOT ABOVE",
  "aSUPERSET OF OR EQUAL TO WITH DOT ABOVEaSUBSET OF ABOVE EQUALS SIGN",
  "aSUPERSET OF ABOVE EQUALS SIGNaSUBSET OF ABOVE TILDE OPERATORaSUPERSET OF ABOVE TILDE OPERATOR",
  "aSUBSET OF ABOVE ALMOST EQUAL TOaSUPERSET OF ABOVE ALMOST EQUAL TO",
  "aSUBSET OF ABOVE NOT EQUAL TOaSUPERSET OF ABOVE NOT EQUAL TOaSQUARE LEFT OPEN BOX OPERATOR",
  "bRIGHT OPEN BOX OPERATORaCLOSED SUBSETbSUPERSETbSUBSET OR EQUAL TObSUPERSET OR EQUAL TO",
  "aSUBSET ABOVE SUPERSETaSUPERSET ABOVE SUBSETaSUBSET ABOVE SUBSETaSUPERSET ABOVE SUPERSET",
  "bBESIDE SUBSETcAND JOINED BY DASH WITH SUBSETaELEMENT OF OPENING DOWNWARDS",
  "aPITCHFORK WITH TEE TOPaTRANSVERSAL INTERSECTIONaFORKINGaNONFORKINGaSHORT LEFT TACKbDOWN TACK",
  "bUP TACKaPERPENDICULAR WITH SaVERTICAL BAR TRIPLE RIGHT TURNSTILE",
  "aDOUBLE VERTICAL BAR LEFT TURNSTILEaVERTICAL BAR DOUBLE LEFT TURNSTILE",
  "aDOUBLE VERTICAL BAR DOUBLE LEFT TURNSTILEaLONG DASH FROM LEFT MEMBER OF DOUBLE VERTICAL",
  "aSHORT DOWN TACK WITH OVERBARbUP TACK WITH UNDERBARdABOVE SHORT DOWN TACKaDOUBLE DOWN TACK",
  "bUP TACKbSTROKE NOT SIGNaREVERSED DOUBLE STROKE NOT SIGN",
  "aDOES NOT DIVIDE WITH REVERSED NEGATION SLASHaVERTICAL LINE WITH CIRCLE ABOVEeBELOW",
  "aDOWN TACK WITH CIRCLE BELOWaPARALLEL WITH HORIZONTAL STROKEcTILDE OPERATOR",
  "aTRIPLE VERTICAL BAR BINARY RELATIONdWITH HORIZONTAL STROKEbCOLON OPERATORbNESTED LESS-THAN",
  "cGREATER-THANaDOUBLE-LINE SLANTED LESS-THAN OR EQUAL TOcGREATER-THAN OR EQUAL TO",
  "aTRIPLE SOLIDUS BINARY RELATIONaLARGE TRIPLE VERTICAL BAR OPERATORaDOUBLE SOLIDUS OPERATOR",
  "aWHITE VERTICAL BARaN-ARY WHITE VERTICAL BARaNORTH EAST WHITE ARROWbWEST WHITE ARROW",
  "aSOUTH EAST WHITE ARROWbWEST WHITE ARROWaLEFT RIGHT WHITE ARROWaLEFTWARDS BLACK ARROW",
  "aUPWARDS BLACK ARROWaDOWNWARDS BLACK ARROWaNORTH EAST BLACK ARROWbWEST BLACK ARROW",
  "aSOUTH EAST BLACK ARROWbWEST BLACK ARROWaLEFT RIGHT BLACK ARROWaUP DOWN BLACK ARROW",
  "aRIGHTWARDS ARROW WITH TIP DOWNWARDSeUPWARDSaLEFTWARDS ARROW WITH TIP DOWNWARDSeUPWARDS",
  "aSQUARE WITH TOP HALF BLACKcBOTTOM HALF BLACKcUPPER RIGHT DIAGONAL HALF BLACK",
  "cLOWER LEFT DIAGONAL HALF BLACKaDIAMOND WITH LEFT HALF BLACKcRIGHT HALF BLACKcTOP HALF BLACK",
  "cBOTTOM HALF BLACKaDOTTED SQUAREaBLACK LARGE SQUAREaWHITE LARGE SQUAREaBLACK VERY SMALL SQUARE",
  "aWHITE VERY SMALL SQUAREaBLACK PENTAGONaWHITE PENTAGONbHEXAGONaBLACK HEXAGON",
  "aHORIZONTAL BLACK HEXAGONaBLACK LARGE CIRCLEbMEDIUM DIAMONDaWHITE MEDIUM DIAMOND",
  "aBLACK MEDIUM LOZENGEaWHITE MEDIUM LOZENGEaBLACK SMALL DIAMONDcLOZENGEaWHITE SMALL LOZENGE",
  "aBLACK HORIZONTAL ELLIPSEaWHITE HORIZONTAL ELLIPSEaBLACK VERTICAL ELLIPSE",
  "aWHITE VERTICAL ELLIPSEaLEFT ARROW WITH SMALL CIRCLEaTHREE LEFTWARDS ARROWS",
  "aLEFT ARROW WITH CIRCLED PLUSaLONG LEFTWARDS SQUIGGLE ARROW",
  "aLEFTWARDS TWO-HEADED ARROW WITH VERTICAL STROKEeDOUBLE VERTICAL STROKEdFROM BAR",
  "cTRIPLE DASH ARROWbARROW WITH DOTTED STEMdTAIL WITH VERTICAL STROKEfDOUBLE VERTICAL STROKE",
  "bTWO-HEADED ARROW WITH TAILfWITH VERTICAL STROKEgDOUBLE VERTICAL STROKEbARROW THROUGH X",
  "aWAVE ARROW POINTING DIRECTLY LEFTaEQUALS SIGN ABOVE LEFTWARDS ARROW",
  "aREVERSE TILDE OPERATOR ABOVE LEFTWARDS ARROWaLEFTWARDS ARROW ABOVE REVERSE ALMOST EQUAL TO",
  "aRIGHTWARDS ARROW THROUGH GREATER-THANdSUPERSETaLEFTWARDS QUADRUPLE ARROW",
  "aRIGHTWARDS QUADRUPLE ARROWaREVERSE TILDE OPERATOR ABOVE RIGHTWARDS ARROW",
  "aRIGHTWARDS ARROW ABOVE REVERSE ALMOST EQUAL TOaTILDE OPERATOR ABOVE LEFTWARDS ARROW",
  "aLEFTWARDS ARROW ABOVE ALMOST EQUAL TOdREVERSE TILDE OPERATOR",
  "aRIGHTWARDS ARROW ABOVE REVERSE TILDE OPERATORaDOWNWARDS TRIANGLE-HEADED ZIGZAG ARROW",
  "aSHORT SLANTED NORTH ARROWbBACKSLANTED SOUTH ARROWaWHITE MEDIUM STARaBLACK SMALL STAR",
  "aWHITE SMALL STARaBLACK RIGHT-POINTING PENTAGONaWHITE RIGHT-POINTING PENTAGON",
  "aHEAVY LARGE CIRCLEbOVAL WITH OVAL INSIDEbCIRCLE WITH CIRCLE INSIDEbCIRCLEbCIRCLED SALTIRE",
  "aSLANTED NORTH ARROW WITH HOOKED HEADaBACKSLANTED SOUTH ARROW WITH HOOKED TAIL",
  "aSLANTED NORTH ARROW WITH HORIZONTAL TAILaBACKSLANTED SOUTH ARROW WITH HORIZONTAL TAIL",
  "aBENT ARROW POINTING DOWNWARDS THEN NORTH EAST",
  "aSHORT BENT ARROW POINTING DOWNWARDS THEN NORTH EASTaLEFTWARDS TRIANGLE-HEADED ARROW",
  "aUPWARDS TRIANGLE-HEADED ARROWaRIGHTWARDS TRIANGLE-HEADED ARROW",
  "aDOWNWARDS TRIANGLE-HEADED ARROWaLEFT RIGHT TRIANGLE-HEADED ARROW",
  "aUP DOWN TRIANGLE-HEADED ARROWaNORTH WEST TRIANGLE-HEADED ARROWbEAST TRIANGLE-HEADED ARROW",
  "aSOUTH EAST TRIANGLE-HEADED ARROWbWEST TRIANGLE-HEADED ARROW",
  "aLEFTWARDS TRIANGLE-HEADED DASHED ARROWaUPWARDS TRIANGLE-HEADED DASHED ARROW",
  "aRIGHTWARDS TRIANGLE-HEADED DASHED ARROWaDOWNWARDS TRIANGLE-HEADED DASHED ARROW",
  "aCLOCKWISE TRIANGLE-HEADED OPEN CIRCLE ARROWaANTICLOCKWISE TRIANGLE-HEADED OPEN CIRCLE ARROW",
  "aLEFTWARDS TRIANGLE-HEADED ARROW TO BARaUPWARDS TRIANGLE-HEADED ARROW TO BAR",
  "aRIGHTWARDS TRIANGLE-HEADED ARROW TO BARaDOWNWARDS TRIANGLE-HEADED ARROW TO BAR/2B76",
  "aNORTH WEST TRIANGLE-HEADED ARROW TO BARbEAST TRIANGLE-HEADED ARROW TO BAR",
  "aSOUTH EAST TRIANGLE-HEADED ARROW TO BARbWEST TRIANGLE-HEADED ARROW TO BAR",
  "aLEFTWARDS TRIANGLE-HEADED ARROW WITH DOUBLE HORIZONTAL STROKE",
  "aUPWARDS TRIANGLE-HEADED ARROW WITH DOUBLE HORIZONTAL STROKE",
  "aRIGHTWARDS TRIANGLE-HEADED ARROW WITH DOUBLE HORIZONTAL STROKE",
  "aDOWNWARDS TRIANGLE-HEADED ARROW WITH DOUBLE HORIZONTAL STROKEaHORIZONTAL TAB KEY",
  "aVERTICAL TAB KEYaLEFTWARDS TRIANGLE-HEADED ARROW OVER RIGHTWARDS TRIANGLE-HEADED ARROW",
  "aUPWARDS TRIANGLE-HEADED ARROW LEFTWARDS OF DOWNWARDS TRIANGLE-HEADED ARROW",
  "aRIGHTWARDS TRIANGLE-HEADED ARROW OVER LEFTWARDS TRIANGLE-HEADED ARROW",
  "aDOWNWARDS TRIANGLE-HEADED ARROW LEFTWARDS OF UPWARDS TRIANGLE-HEADED ARROW",
  "aLEFTWARDS TRIANGLE-HEADED PAIRED ARROWSaUPWARDS TRIANGLE-HEADED PAIRED ARROWS",
  "aRIGHTWARDS TRIANGLE-HEADED PAIRED ARROWSaDOWNWARDS TRIANGLE-HEADED PAIRED ARROWS",
  "aLEFTWARDS BLACK CIRCLED WHITE ARROWaUPWARDS BLACK CIRCLED WHITE ARROW",
  "aRIGHTWARDS BLACK CIRCLED WHITE ARROWaDOWNWARDS BLACK CIRCLED WHITE ARROW",
  "aANTICLOCKWISE TRIANGLE-HEADED RIGHT U-SHAPED ARROWcBOTTOM U-SHAPED ARROWcLEFT U-SHAPED ARROW",
  "cTOP U-SHAPED ARROWaRETURN LEFTbRIGHTaNEWLINE LEFTbRIGHT",
  "aFOUR CORNER ARROWS CIRCLING ANTICLOCKWISEaRIGHTWARDS BLACK ARROW/2B97",
  "aSYMBOL FOR TYPE A ELECTRONICSaTHREE-D TOP-LIGHTED LEFTWARDS EQUILATERAL ARROWHEAD",
  "bRIGHT-LIGHTED UPWARDS EQUILATERAL ARROWHEADbTOP-LIGHTED RIGHTWARDS EQUILATERAL ARROWHEAD",
  "bLEFT-LIGHTED DOWNWARDS EQUILATERAL ARROWHEADaBLACK LEFTWARDS EQUILATERAL ARROWHEAD",
  "bUPWARDS EQUILATERAL ARROWHEADbRIGHTWARDS EQUILATERAL ARROWHEAD",
  "bDOWNWARDS EQUILATERAL ARROWHEADaDOWNWARDS TRIANGLE-HEADED ARROW WITH LONG TIP LEFTWARDS",
  "gRIGHTWARDSaUPWARDS TRIANGLE-HEADED ARROW WITH LONG TIP LEFTWARDSgRIGHTWARDS",
  "aLEFTWARDS TRIANGLE-HEADED ARROW WITH LONG TIP UPWARDS",
  "aRIGHTWARDS TRIANGLE-HEADED ARROW WITH LONG TIP UPWARDS",
  "aLEFTWARDS TRIANGLE-HEADED ARROW WITH LONG TIP DOWNWARDS",
  "aRIGHTWARDS TRIANGLE-HEADED ARROW WITH LONG TIP DOWNWARDS",
  "aBLACK CURVED DOWNWARDS AND LEFTWARDS ARROWeRIGHTWARDS ARROWcUPWARDS AND LEFTWARDS ARROW",
  "eRIGHTWARDS ARROWcLEFTWARDS AND UPWARDS ARROWcRIGHTWARDS AND UPWARDS ARROW",
  "cLEFTWARDS AND DOWNWARDS ARROWcRIGHTWARDS AND DOWNWARDS ARROWaRIBBON ARROW DOWN LEFTdRIGHT",
  "cUP LEFTdRIGHTcLEFT UPcRIGHT UPcLEFT DOWNcRIGHT DOWN",
  "aUPWARDS WHITE ARROW FROM BAR WITH HORIZONTAL BARaUP ARROWHEAD IN A RECTANGLE BOX",
  "aOVERLAPPING WHITE SQUAREScAND BLACK SQUARESbBLACK SQUARESaBALLOT BOX WITH LIGHT XaCIRCLED X",
  "bBOLD XaBLACK SQUARE CENTREDbDIAMOND CENTREDaTURNED BLACK PENTAGONaHORIZONTAL BLACK OCTAGON",
  "aBLACK OCTAGONbMEDIUM UP-POINTING TRIANGLE CENTREDcDOWN-POINTING TRIANGLE CENTRED",
  "cLEFT-POINTING TRIANGLE CENTREDcRIGHT-POINTING TRIANGLE CENTREDaNEPTUNE FORM TWO",
  "aTOP HALF BLACK CIRCLEaBOTTOM HALF BLACK CIRCLEaLIGHT FOUR POINTED BLACK CUSP",
  "aROTATED LIGHT FOUR POINTED BLACK CUSPaWHITE FOUR POINTED CUSPaROTATED WHITE FOUR POINTED CUSP",
  "aSQUARE POSITION INDICATORaUNCERTAINTY SIGNaGROUP MARKaPLUTO FORM TWOcTHREEcFOURcFIVE",
  "aTRANSPLUTOaPROSERPINAaASTRAEAaHYGIEAaPHOLUSaNESSUSaWHITE MOON SELENAaBLACK DIAMOND ON CROSS",
  "aTRUE LIGHT MOON ARTAaCUPIDOaHADESaZEUSaKRONOSaAPOLLONaADMETOSaVULCANUSaPOSEIDON",
  "aLEFT HALF BLACK STARaRIGHT HALF BLACK STARaSTAR WITH LEFT HALF BLACKcRIGHT HALF BLACK",
  "aLEFTWARDS TWO-HEADED ARROW WITH TRIANGLE ARROWHEADS",
  "aUPWARDS TWO-HEADED ARROW WITH TRIANGLE ARROWHEADS",
  "aRIGHTWARDS TWO-HEADED ARROW WITH TRIANGLE ARROWHEADS",
  "aDOWNWARDS TWO-HEADED ARROW WITH TRIANGLE ARROWHEADSaERIS FORM ONEcTWOaSEDNA",
  "aRUSSIAN ASTROLOGICAL SYMBOL VIGINTILEdNOVILEdQUINTILEdBINOVILEdSENTAGONdTREDECILE",
  "aEQUALS SIGN WITH INFINITY BELOWaUNITED SYMBOLaSEPARATED SYMBOLaDOUBLED SYMBOLaPASSED SYMBOL",
  "aREVERSED RIGHT ANGLEaHELLSCHREIBER PAUSE SYMBOLaGLAGOLITIC CAPITAL LETTER AZUdBUKYdVEDE",
  "dGLAGOLIdDOBROdYESTUdZHIVETEdDZELOdZEMLJAdIZHEdINITIAL IZHEdIdDJERVIdKAKOdLJUDIJEdMYSLITE",
  "dNASHIdONUdPOKOJIdRITSIdSLOVOdTVRIDOdUKUdFRITUdHERUdOTUdPEdSHTAdTSIdCHRIVIdSHAdYERUdYERIdYATI",
  "dSPIDERY HAdYUdSMALL YUSfWITH TAILdYOdIOTATED SMALL YUSdBIG YUSdIOTATED BIG YUSdFITAdIZHITSA",
  "dSHTAPICdTROKUTASTI AdLATINATE MYSLITEdCAUDATE CHRIVIbSMALL LETTER AZUdBUKYdVEDEdGLAGOLIdDOBRO",
  "dYESTUdZHIVETEdDZELOdZEMLJAdIZHEdINITIAL IZHEdIdDJERVIdKAKOdLJUDIJEdMYSLITEdNASHIdONUdPOKOJI",
  "dRITSIdSLOVOdTVRIDOdUKUdFRITUdHERUdOTUdPEdSHTAdTSIdCHRIVIdSHAdYERUdYERIdYATIdSPIDERY HAdYU",
  "dSMALL YUSfWITH TAILdYOdIOTATED SMALL YUSdBIG YUSdIOTATED BIG YUSdFITAdIZHITSAdSHTAPIC",
  "dTROKUTASTI AdLATINATE MYSLITEdCAUDATE CHRIVIaLATIN CAPITAL LETTER L WITH DOUBLE BAR",
  "bSMALL LETTER L WITH DOUBLE BARbCAPITAL LETTER L WITH MIDDLE TILDEdP WITH STROKEdR WITH TAIL",
  "bSMALL LETTER A WITH STROKEdT WITH DIAGONAL STROKEbCAPITAL LETTER H WITH DESCENDER",
  "bSMALL LETTER H WITH DESCENDERbCAPITAL LETTER K WITH DESCENDERbSMALL LETTER K WITH DESCENDER",
  "bCAPITAL LETTER Z WITH DESCENDERbSMALL LETTER Z WITH DESCENDERbCAPITAL LETTER ALPHA",
  "dM WITH HOOKdTURNED AeALPHAbSMALL LETTER V WITH RIGHT HOOKbCAPITAL LETTER W WITH HOOK",
  "bSMALL LETTER W WITH HOOKdV WITH CURLbCAPITAL LETTER HALF HbSMALL LETTER HALF HdTAILLESS PHI",
  "dE WITH NOTCHdTURNED R WITH TAILdO WITH LOW RING INSIDEbLETTER SMALL CAPITAL TURNED E",
  "bSUBSCRIPT SMALL LETTER JaMODIFIER LETTER CAPITAL VaLATIN CAPITAL LETTER S WITH SWASH TAIL",
  "dZ WITH SWASH TAILaCOPTIC CAPITAL LETTER ALFAbSMALL LETTER ALFAbCAPITAL LETTER VIDA",
  "bSMALL LETTER VIDAbCAPITAL LETTER GAMMAbSMALL LETTER GAMMAbCAPITAL LETTER DALDA",
  "bSMALL LETTER DALDAbCAPITAL LETTER EIEbSMALL LETTER EIEbCAPITAL LETTER SOUbSMALL LETTER SOU",
  "bCAPITAL LETTER ZATAbSMALL LETTER ZATAbCAPITAL LETTER HATEbSMALL LETTER HATE",
  "bCAPITAL LETTER THETHEbSMALL LETTER THETHEbCAPITAL LETTER IAUDAbSMALL LETTER IAUDA",
  "bCAPITAL LETTER KAPAbSMALL LETTER KAPAbCAPITAL LETTER LAULAbSMALL LETTER LAULA",
  "bCAPITAL LETTER MIbSMALL LETTER MIbCAPITAL LETTER NIbSMALL LETTER NIbCAPITAL LETTER KSI",
  "bSMALL LETTER KSIbCAPITAL LETTER ObSMALL LETTER ObCAPITAL LETTER PIbSMALL LETTER PI",
  "bCAPITAL LETTER RObSMALL LETTER RObCAPITAL LETTER SIMAbSMALL LETTER SIMAbCAPITAL LETTER TAU",
  "bSMALL LETTER TAUbCAPITAL LETTER UAbSMALL LETTER UAbCAPITAL LETTER FIbSMALL LETTER FI",
  "bCAPITAL LETTER KHIbSMALL LETTER KHIbCAPITAL LETTER PSIbSMALL LETTER PSIbCAPITAL LETTER OOU",
  "bSMALL LETTER OOUbCAPITAL LETTER DIALECT-P ALEFbSMALL LETTER DIALECT-P ALEF",
  "bCAPITAL LETTER OLD COPTIC AINbSMALL LETTER OLD COPTIC AINbCAPITAL LETTER CRYPTOGRAMMIC EIE",
  "bSMALL LETTER CRYPTOGRAMMIC EIEbCAPITAL LETTER DIALECT-P KAPAbSMALL LETTER DIALECT-P KAPA",
  "bCAPITAL LETTER DIALECT-P NIbSMALL LETTER DIALECT-P NIbCAPITAL LETTER CRYPTOGRAMMIC NI",
  "bSMALL LETTER CRYPTOGRAMMIC NIbCAPITAL LETTER OLD COPTIC OOUbSMALL LETTER OLD COPTIC OOU",
  "bCAPITAL LETTER SAMPIbSMALL LETTER SAMPIbCAPITAL LETTER CROSSED SHEIbSMALL LETTER CROSSED SHEI",
  "bCAPITAL LETTER OLD COPTIC SHEIbSMALL LETTER OLD COPTIC SHEIbCAPITAL LETTER OLD COPTIC ESH",
  "bSMALL LETTER OLD COPTIC ESHbCAPITAL LETTER AKHMIMIC KHEIbSMALL LETTER AKHMIMIC KHEI",
  "bCAPITAL LETTER DIALECT-P HORIbSMALL LETTER DIALECT-P HORIbCAPITAL LETTER OLD COPTIC HORI",
  "bSMALL LETTER OLD COPTIC HORIbCAPITAL LETTER OLD COPTIC HAbSMALL LETTER OLD COPTIC HA",
  "bCAPITAL LETTER L-SHAPED HAbSMALL LETTER L-SHAPED HAbCAPITAL LETTER OLD COPTIC HEI",
  "bSMALL LETTER OLD COPTIC HEIbCAPITAL LETTER OLD COPTIC HATbSMALL LETTER OLD COPTIC HAT",
  "bCAPITAL LETTER OLD COPTIC GANGIAbSMALL LETTER OLD COPTIC GANGIAbCAPITAL LETTER OLD COPTIC DJA",
  "bSMALL LETTER OLD COPTIC DJAbCAPITAL LETTER OLD COPTIC SHIMAbSMALL LETTER OLD COPTIC SHIMA",
  "bCAPITAL LETTER OLD NUBIAN SHIMAbSMALL LETTER OLD NUBIAN SHIMAbCAPITAL LETTER OLD NUBIAN NGI",
  "bSMALL LETTER OLD NUBIAN NGIbCAPITAL LETTER OLD NUBIAN NYIbSMALL LETTER OLD NUBIAN NYI",
  "bCAPITAL LETTER OLD NUBIAN WAUbSMALL LETTER OLD NUBIAN WAUbSYMBOL KAIcMI ROcPI ROcSTAUROS",
  "cTAU ROcKHI ROcSHIMA SIMAbCAPITAL LETTER CRYPTOGRAMMIC SHEIbSMALL LETTER CRYPTOGRAMMIC SHEI",
  "bCAPITAL LETTER CRYPTOGRAMMIC GANGIAbSMALL LETTER CRYPTOGRAMMIC GANGIAbCOMBINING NI ABOVE",
  "cSPIRITUS ASPERdLENISbCAPITAL LETTER BOHAIRIC KHEIbSMALL LETTER BOHAIRIC KHEI/2CF9",
  "bOLD NUBIAN FULL STOPdDIRECT QUESTION MARKdINDIRECT QUESTION MARKdVERSE DIVIDER",
  "bFRACTION ONE HALFbFULL STOPbMORPHOLOGICAL DIVIDERaGEORGIAN SMALL LETTER ANdBANdGANdDONdENdVIN",
  "dZENdTANdINdKANdLASdMANdNARdONdPARdZHARdRAEdSANdTARdUNdPHARdKHARdGHANdQARdSHINdCHINdCANdJIL",
  "dCILdCHARdXANdJHANdHAEdHEdHIEdWEdHARdHOE/2D27dYN/2D2DdAEN/2D30aTIFINAGH LETTER YAcYABcYABHcYAG",
  "cYAGHHcBERBER ACADEMY YAJcYAJcYADcYADHcYADDcYADDHcYEYcYAFcYAKcTUAREG YAKcYAKHHcYAH",
  "cBERBER ACADEMY YAHcTUAREG YAHcYAHHcYAAcYAKHcTUAREG YAKHcYAQcTUAREG YAQcYIcYAZHcAHAGGAR YAZH",
  "cTUAREG YAZHcYALcYAMcYANcTUAREG YAGNdYANGcYAPcYUcYARcYARRcYAGHcTUAREG YAGHcAYER YAGHcYAScYASS",
  "cYASHcYATcYATHcYACHcYATTcYAVcYAWcYAYcYAZcTAWELLEMET YAZcYAZZcYEcYO/2D6F",
  "bMODIFIER LETTER LABIALIZATION MARKbSEPARATOR MARK/2D7FbCONSONANT JOINERaETHIOPIC SYLLABLE LOA",
  "cMOAcROAcSOAcSHOAcBOAcTOAcCOAcNOAcNYOAcGLOTTAL OAcZOAcDOAcDDOAcJOAcTHOAcCHOAcPHOAcPOAcGGWA",
  "cGGWIcGGWEEcGGWE/2DA0cSSAcSSUcSSIcSSAAcSSEEcSSEcSSO/2DA8cCCAcCCUcCCIcCCAAcCCEEcCCEcCCO/2DB0",
  "cZZAcZZUcZZIcZZAAcZZEEcZZEcZZO/2DB8cCCHAcCCHUcCCHIcCCHAAcCCHEEcCCHEcCCHO/2DC0cQYAcQYUcQYIcQYAA",
  "cQYEEcQYEcQYO/2DC8cKYAcKYUcKYIcKYAAcKYEEcKYEcKYO/2DD0cXYAcXYUcXYIcXYAAcXYEEcXYEcXYO/2DD8cGYA",
  "cGYUcGYIcGYAAcGYEEcGYEcGYO/2DE0aCOMBINING CYRILLIC LETTER BEdVEdGHEdDEdZHEdZEdKAdELdEMdENdOdPE",
  "dERdESdTEdHAdTSEdCHEdSHAdSHCHAdFITAdES-TEdAdIEdDJERVdMONOGRAPH UKdYATdYUdIOTIFIED AdLITTLE YUS",
  "dBIG YUSdIOTIFIED BIG YUSaRIGHT ANGLE SUBSTITUTION MARKERcDOTTED SUBSTITUTION MARKER",
  "aLEFT SUBSTITUTION BRACKETaRIGHT SUBSTITUTION BRACKETaLEFT DOTTED SUBSTITUTION BRACKET",
  "aRIGHT DOTTED SUBSTITUTION BRACKETaRAISED INTERPOLATION MARKERbDOTTED INTERPOLATION MARKER",
  "aDOTTED TRANSPOSITION MARKERaLEFT TRANSPOSITION BRACKETaRIGHT TRANSPOSITION BRACKET",
  "aRAISED SQUAREaLEFT RAISED OMISSION BRACKETaRIGHT RAISED OMISSION BRACKETaEDITORIAL CORONIS",
  "aPARAGRAPHOSaFORKED PARAGRAPHOSaREVERSED FORKED PARAGRAPHOSaHYPODIASTOLEaDOTTED OBELOS",
  "aDOWNWARDS ANCORAaUPWARDS ANCORAaDOTTED RIGHT-POINTING ANGLEaDOUBLE OBLIQUE HYPHEN",
  "aINVERTED INTERROBANGaPALM BRANCHaHYPHEN WITH DIAERESISaTILDE WITH RING ABOVE",
  "aLEFT LOW PARAPHRASE BRACKETaRIGHT LOW PARAPHRASE BRACKETaTILDE WITH DOT ABOVEdBELOW",
  "aLEFT VERTICAL BAR WITH QUILLaRIGHT VERTICAL BAR WITH QUILLaTOP LEFT HALF BRACKET",
  "bRIGHT HALF BRACKETaBOTTOM LEFT HALF BRACKETbRIGHT HALF BRACKETaLEFT SIDEWAYS U BRACKET",
  "aRIGHT SIDEWAYS U BRACKETaLEFT DOUBLE PARENTHESISaRIGHT DOUBLE PARENTHESIS",
  "aTWO DOTS OVER ONE DOT PUNCTUATIONaONE DOT OVER TWO DOTS PUNCTUATION",
  "aSQUARED FOUR DOT PUNCTUATIONaFIVE DOT MARKaREVERSED QUESTION MARKaVERTICAL TILDEaRING POINT",
  "aWORD SEPARATOR MIDDLE DOTaTURNED COMMAaRAISED DOTbCOMMAaTURNED SEMICOLON",
  "aDAGGER WITH LEFT GUARDcRIGHT GUARDaTURNED DAGGERaTOP HALF SECTION SIGNaTWO-EM DASH",
  "aTHREE-EM DASHaSTENOGRAPHIC FULL STOPaVERTICAL SIX DOTSaWIGGLY VERTICAL LINEaCAPITULUM",
  "aDOUBLE HYPHENaREVERSED COMMAaDOUBLE LOW-REVERSED-9 QUOTATION MARKaDASH WITH LEFT UPTURN",
  "aDOUBLE SUSPENSION MARKaINVERTED LOW KAVYKAdWITH KAVYKA ABOVEaLOW KAVYKAcWITH DOT",
  "aDOUBLE STACKED COMMAaDOTTED SOLIDUSaTRIPLE DAGGERaMEDIEVAL COMMAaPARAGRAPHUS MARK",
  "aPUNCTUS ELEVATUS MARKaCORNISH VERSE DIVIDERaCROSS PATTY WITH RIGHT CROSSBARdLEFT CROSSBAR",
  "aTIRONIAN SIGN CAPITAL ETaMEDIEVAL EXCLAMATION MARKbQUESTION MARK",
  "aLEFT SQUARE BRACKET WITH STROKEaRIGHT SQUARE BRACKET WITH STROKE",
  "aLEFT SQUARE BRACKET WITH DOUBLE STROKEaRIGHT SQUARE BRACKET WITH DOUBLE STROKE",
  "aTOP HALF LEFT PARENTHESIScRIGHT PARENTHESISaBOTTOM HALF LEFT PARENTHESIScRIGHT PARENTHESIS",
  "aOBLIQUE HYPHEN/2E80aCJK RADICAL REPEATcCLIFFcSECOND ONEdTWOdTHREEcPERSONcBOXcTABLEcKNIFE ONE",
  "dTWOcDIVINATIONcSEALcSMALL ONEdTWOcLAME ONEdTWOdTHREEdFOURcSNAKEcTHREADcSNOUT ONEdTWO",
  "cHEART ONEdTWOcHANDcRAP/2E9BcCHOKEcSUNcMOONcDEATHcMOTHERcCIVILIANcWATER ONEdTWOcFIREcPAW ONE",
  "dTWOcSIMPLIFIED HALF TREE TRUNKcCOWcDOGcJADEcBOLT OF CLOTHcEYEcSPIRIT ONEdTWOcBAMBOOcSILK",
  "cC-SIMPLIFIED SILKcNET ONEdTWOdTHREEdFOURcMESHcSHEEPcRAMcEWEcOLDcBRUSH ONEdTWOcMEATcMORTAR",
  "cGRASS ONEdTWOdTHREEcTIGERcCLOTHEScWEST ONEdTWOcC-SIMPLIFIED SEEcSIMPLIFIED HORNcHORN",
  "cC-SIMPLIFIED SPEECHdSHELLcFOOTcC-SIMPLIFIED CARTcSIMPLIFIED WALKcWALK ONEdTWOcCITY",
  "cC-SIMPLIFIED GOLDcLONG ONEdTWOcC-SIMPLIFIED LONGdGATEcMOUND ONEdTWOcRAINcBLUE",
  "cC-SIMPLIFIED TANNED LEATHERdLEAFdWINDdFLYcEAT ONEdTWOdTHREEcC-SIMPLIFIED EATcHEAD",
  "cC-SIMPLIFIED HORSEcBONEcGHOSTcC-SIMPLIFIED FISHdBIRDdSALTcSIMPLIFIED WHEATdYELLOW",
  "cC-SIMPLIFIED FROGcJ-SIMPLIFIED EVENcC-SIMPLIFIED EVENcJ-SIMPLIFIED TOOTHcC-SIMPLIFIED TOOTH",
  "cJ-SIMPLIFIED DRAGONcC-SIMPLIFIED DRAGONcTURTLEcJ-SIMPLIFIED TURTLEcC-SIMPLIFIED TURTLE/2F00",
  "aKANGXI RADICAL ONEcLINEcDOTcSLASHcSECONDcHOOKcTWOcLIDcMANcLEGScENTERcEIGHTcDOWN BOXcCOVERcICE",
  "cTABLEcOPEN BOXcKNIFEcPOWERcWRAPcSPOONcRIGHT OPEN BOXcHIDING ENCLOSUREcTENcDIVINATIONcSEAL",
  "cCLIFFcPRIVATEcAGAINcMOUTHcENCLOSUREcEARTHcSCHOLARcGOdSLOWLYcEVENINGcBIGcWOMANcCHILDcROOFcINCH",
  "cSMALLcLAMEcCORPSEcSPROUTcMOUNTAINcRIVERcWORKcONESELFcTURBANcDRYcSHORT THREADcDOTTED CLIFF",
  "cLONG STRIDEcTWO HANDScSHOOTcBOWcSNOUTcBRISTLEcSTEPcHEARTcHALBERDcDOORcHANDcBRANCHcRAPcSCRIPT",
  "cDIPPERcAXEcSQUAREcNOTcSUNcSAYcMOONcTREEcLACKcSTOPcDEATHcWEAPONcDO NOTcCOMPAREcFURcCLANcSTEAM",
  "cWATERcFIREcCLAWcFATHERcDOUBLE XcHALF TREE TRUNKcSLICEcFANGcCOWcDOGcPROFOUNDcJADEcMELONcTILE",
  "cSWEETcLIFEcUSEcFIELDcBOLT OF CLOTHcSICKNESScDOTTED TENTcWHITEcSKINcDISHcEYEcSPEARcARROWcSTONE",
  "cSPIRITcTRACKcGRAINcCAVEcSTANDcBAMBOOcRICEcSILKcJARcNETcSHEEPcFEATHERcOLDcANDcPLOWcEARcBRUSH",
  "cMEATcMINISTERcSELFcARRIVEcMORTARcTONGUEcOPPOSEcBOATcSTOPPINGcCOLORcGRASScTIGERcINSECTcBLOOD",
  "cWALK ENCLOSUREcCLOTHEScWESTcSEEcHORNcSPEECHcVALLEYcBEANcPIGcBADGERcSHELLcREDcRUNcFOOTcBODY",
  "cCARTcBITTERcMORNINGcWALKcCITYcWINEcDISTINGUISHcVILLAGEcGOLDcLONGcGATEcMOUNDcSLAVE",
  "cSHORT TAILED BIRDcRAINcBLUEcWRONGcFACEcLEATHERcTANNED LEATHERcLEEKcSOUNDcLEAFcWINDcFLYcEAT",
  "cHEADcFRAGRANTcHORSEcBONEcTALLcHAIRcFIGHTcSACRIFICIAL WINEcCAULDRONcGHOSTcFISHcBIRDcSALTcDEER",
  "cWHEATcHEMPcYELLOWcMILLETcBLACKcEMBROIDERYcFROGcTRIPODcDRUMcRATcNOSEcEVENcTOOTHcDRAGONcTURTLE",
  "cFLUTE/2FF0aIDEOGRAPHIC DESCRIPTION CHARACTER LEFT TO RIGHTdABOVE TO BELOW",
  "dLEFT TO MIDDLE AND RIGHTdABOVE TO MIDDLE AND BELOWdFULL SURROUNDdSURROUND FROM ABOVEfBELOW",
  "fLEFTfUPPER LEFTgRIGHTfLOWER LEFTdOVERLAID"]

end LexPattern.Name.Table
