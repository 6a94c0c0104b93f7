namespace LexPattern.Name.Table

def fromU1F000 : List String := [
  "/1F000aMAHJONG TILE EAST WINDcSOUTH WINDcWEST WINDcNORTH WINDcRED DRAGONcGREEN DRAGON",
  "cWHITE DRAGONcONE OF CHARACTERScTWO OF CHARACTERScTHREE OF CHARACTERScFOUR OF CHARACTERS",
  "cFIVE OF CHARACTERScSIX OF CHARACTERScSEVEN OF CHARACTERScEIGHT OF CHARACTERS",
  "cNINE OF CHARACTERScONE OF BAMBOOScTWO OF BAMBOOScTHREE OF BAMBOOScFOUR OF BAMBOOS",
  "cFIVE OF BAMBOOScSIX OF BAMBOOScSEVEN OF BAMBOOScEIGHT OF BAMBOOScNINE OF BAMBOOS",
  "cONE OF CIRCLEScTWO OF CIRCLEScTHREE OF CIRCLEScFOUR OF CIRCLEScFIVE OF CIRCLEScSIX OF CIRCLES",
  "cSEVEN OF CIRCLEScEIGHT OF CIRCLEScNINE OF CIRCLEScPLUMcORCHIDcBAMBOOcCHRYSANTHEMUMcSPRING",
  "cSUMMERcAUTUMNcWINTERcJOKERcBACK/1F030aDOMINO TILE HORIZONTAL BACKcHORIZONTAL-00-00",
  "cHORIZONTAL-00-01cHORIZONTAL-00-02cHORIZONTAL-00-03cHORIZONTAL-00-04cHORIZONTAL-00-05",
  "cHORIZONTAL-00-06cHORIZONTAL-01-00cHORIZONTAL-01-01cHORIZONTAL-01-02cHORIZONTAL-01-03",
  "cHORIZONTAL-01-04cHORIZONTAL-01-05cHORIZONTAL-01-06cHORIZONTAL-02-00cHORIZONTAL-02-01",
  "cHORIZONTAL-02-02cHORIZONTAL-02-03cHORIZONTAL-02-04cHORIZONTAL-02-05cHORIZONTAL-02-06",
  "cHORIZONTAL-03-00cHORIZONTAL-03-01cHORIZONTAL-03-02cHORIZONTAL-03-03cHORIZONTAL-03-04",
  "cHORIZONTAL-03-05cHORIZONTAL-03-06cHORIZONTAL-04-00cHORIZONTAL-04-01cHORIZONTAL-04-02",
  "cHORIZONTAL-04-03cHORIZONTAL-04-04cHORIZONTAL-04-05cHORIZONTAL-04-06cHORIZONTAL-05-00",
  "cHORIZONTAL-05-01cHORIZONTAL-05-02cHORIZONTAL-05-03cHORIZONTAL-05-04cHORIZONTAL-05-05",
  "cHORIZONTAL-05-06cHORIZONTAL-06-00cHORIZONTAL-06-01cHORIZONTAL-06-02cHORIZONTAL-06-03",
  "cHORIZONTAL-06-04cHORIZONTAL-06-05cHORIZONTAL-06-06cVERTICAL BACKcVERTICAL-00-00",
  "cVERTICAL-00-01cVERTICAL-00-02cVERTICAL-00-03cVERTICAL-00-04cVERTICAL-00-05cVERTICAL-00-06",
  "cVERTICAL-01-00cVERTICAL-01-01cVERTICAL-01-02cVERTICAL-01-03cVERTICAL-01-04cVERTICAL-01-05",
  "cVERTICAL-01-06cVERTICAL-02-00cVERTICAL-02-01cVERTICAL-02-02cVERTICAL-02-03cVERTICAL-02-04",
  "cVERTICAL-02-05cVERTICAL-02-06cVERTICAL-03-00cVERTICAL-03-01cVERTICAL-03-02cVERTICAL-03-03",
  "cVERTICAL-03-04cVERTICAL-03-05cVERTICAL-03-06cVERTICAL-04-00cVERTICAL-04-01cVERTICAL-04-02",
  "cVERTICAL-04-03cVERTICAL-04-04cVERTICAL-04-05cVERTICAL-04-06cVERTICAL-05-00cVERTICAL-05-01",
  "cVERTICAL-05-02cVERTICAL-05-03cVERTICAL-05-04cVERTICAL-05-05cVERTICAL-05-06cVERTICAL-06-00",
  "cVERTICAL-06-01cVERTICAL-06-02cVERTICAL-06-03cVERTICAL-06-04cVERTICAL-06-05cVERTICAL-06-06",
  "/1F0A0aPLAYING CARD BACKcACE OF SPADEScTWO OF SPADEScTHREE OF SPADEScFOUR OF SPADES",
  "cFIVE OF SPADEScSIX OF SPADEScSEVEN OF SPADEScEIGHT OF SPADEScNINE OF SPADEScTEN OF SPADES",
  "cJACK OF SPADEScKNIGHT OF SPADEScQUEEN OF SPADEScKING OF SPADES/1F0B1cACE OF HEARTS",
  "cTWO OF HEARTScTHREE OF HEARTScFOUR OF HEARTScFIVE OF HEARTScSIX OF HEARTScSEVEN OF HEARTS",
  "cEIGHT OF HEARTScNINE OF HEARTScTEN OF HEARTScJACK OF HEARTScKNIGHT OF HEARTScQUEEN OF HEARTS",
  "cKING OF HEARTScRED JOKER/1F0C1cACE OF DIAMONDScTWO OF DIAMONDScTHREE OF DIAMONDS",
  "cFOUR OF DIAMONDScFIVE OF DIAMONDScSIX OF DIAMONDScSEVEN OF DIAMONDScEIGHT OF DIAMONDS",
  "cNINE OF DIAMONDScTEN OF DIAMONDScJACK OF DIAMONDScKNIGHT OF DIAMONDScQUEEN OF DIAMONDS",
  "cKING OF DIAMONDScBLACK JOKER/1F0D1cACE OF CLUBScTWO OF CLUBScTHREE OF CLUBScFOUR OF CLUBS",
  "cFIVE OF CLUBScSIX OF CLUBScSEVEN OF CLUBScEIGHT OF CLUBScNINE OF CLUBScTEN OF CLUBS",
  "cJACK OF CLUBScKNIGHT OF CLUBScQUEEN OF CLUBScKING OF CLUBScWHITE JOKERcFOOLcTRUMP-1cTRUMP-2",
  "cTRUMP-3cTRUMP-4cTRUMP-5cTRUMP-6cTRUMP-7cTRUMP-8cTRUMP-9cTRUMP-10cTRUMP-11cTRUMP-12cTRUMP-13",
  "cTRUMP-14cTRUMP-15cTRUMP-16cTRUMP-17cTRUMP-18cTRUMP-19cTRUMP-20cTRUMP-21/1F100",
  "aDIGIT ZERO FULL STOPcCOMMAbONE COMMAbTWO COMMAbTHREE COMMAbFOUR COMMAbFIVE COMMAbSIX COMMA",
  "bSEVEN COMMAbEIGHT COMMAbNINE COMMAaDINGBAT CIRCLED SANS-SERIF DIGIT ZERO",
  "bNEGATIVE CIRCLED SANS-SERIF DIGIT ZEROaCIRCLED ZERO WITH SLASHbANTICLOCKWISE ARROW",
  "bDOLLAR SIGN WITH OVERLAID BACKSLASHaPARENTHESIZED LATIN CAPITAL LETTER AeBeCeDeEeFeGeHeIeJeK",
  "eLeMeNeOePeQeReSeTeUeVeWeXeYeZaTORTOISE SHELL BRACKETED LATIN CAPITAL LETTER S",
  "aCIRCLED ITALIC LATIN CAPITAL LETTER CfRbCDbWZaCOPYLEFT SYMBOLaSQUARED LATIN CAPITAL LETTER A",
  "eBeCeDeEeFeGeHeIeJeKeLeMeNeOePeQeReSeTeUeVeWeXeYeZbHVbMVbSDbSSbPPVbWC",
  "aNEGATIVE CIRCLED LATIN CAPITAL LETTER AfBfCfDfEfFfGfHfIfJfKfLfMfNfOfPfQfRfSfTfUfVfWfXfYfZ",
  "aRAISED MC SIGNbMD SIGNbMR SIGNaCIRCLED CCbC WITH OVERLAID BACKSLASHbHUMAN FIGURE",
  "aNEGATIVE SQUARED LATIN CAPITAL LETTER AfBfCfDfEfFfGfHfIfJfKfLfMfNfOfPfQfRfSfTfUfVfWfXfYfZ",
  "aCROSSED NEGATIVE SQUARED LATIN CAPITAL LETTER PaNEGATIVE SQUARED ICcPAcSAcABcWCaSQUARE DJ",
  "aSQUARED CLbCOOLbFREEbIDbNEWbNGbOKbSOSbUP WITH EXCLAMATION MARKbVSbTHREE DbSECOND SCREENbTWO K",
  "bFOUR KbEIGHT KbFIVE POINT ONEbSEVEN POINT ONEbTWENTY-TWO POINT TWObSIXTY P",
  "bONE HUNDRED TWENTY PbLATIN SMALL LETTER DbHCbHDRbHI-RESbLOSSLESSbSHVbUHDbVODaMASK WORK SYMBOL",
  "/1F1E6aREGIONAL INDICATOR SYMBOL LETTER AeBeCeDeEeFeGeHeIeJeKeLeMeNeOePeQeReSeTeUeVeWeXeYeZ",
  "aSQUARE HIRAGANA HOKAaSQUARED KATAKANA KOKOcSA/1F210bCJK UNIFIED IDEOGRAPH-624BdIDEOGRAPH-5B57",
  "dIDEOGRAPH-53CCbKATAKANA DEbCJK UNIFIED IDEOGRAPH-4E8CdIDEOGRAPH-591AdIDEOGRAPH-89E3",
  "dIDEOGRAPH-5929dIDEOGRAPH-4EA4dIDEOGRAPH-6620dIDEOGRAPH-7121dIDEOGRAPH-6599dIDEOGRAPH-524D",
  "dIDEOGRAPH-5F8CdIDEOGRAPH-518DdIDEOGRAPH-65B0dIDEOGRAPH-521DdIDEOGRAPH-7D42dIDEOGRAPH-751F",
  "dIDEOGRAPH-8CA9dIDEOGRAPH-58F0dIDEOGRAPH-5439dIDEOGRAPH-6F14dIDEOGRAPH-6295dIDEOGRAPH-6355",
  "dIDEOGRAPH-4E00dIDEOGRAPH-4E09dIDEOGRAPH-904AdIDEOGRAPH-5DE6dIDEOGRAPH-4E2DdIDEOGRAPH-53F3",
  "dIDEOGRAPH-6307dIDEOGRAPH-8D70dIDEOGRAPH-6253dIDEOGRAPH-7981dIDEOGRAPH-7A7AdIDEOGRAPH-5408",
  "dIDEOGRAPH-6E80dIDEOGRAPH-6709dIDEOGRAPH-6708dIDEOGRAPH-7533dIDEOGRAPH-5272dIDEOGRAPH-55B6",
  "dIDEOGRAPH-914D/1F240aTORTOISE SHELL BRACKETED CJK UNIFIED IDEOGRAPH-672CfIDEOGRAPH-4E09",
  "fIDEOGRAPH-4E8CfIDEOGRAPH-5B89fIDEOGRAPH-70B9fIDEOGRAPH-6253fIDEOGRAPH-76D7fIDEOGRAPH-52DD",
  "fIDEOGRAPH-6557/1F250aCIRCLED IDEOGRAPH ADVANTAGEcACCEPT/1F260aROUNDED SYMBOL FOR FUdLUdSHOU",
  "dXIdSHUANGXIdCAI/1F300aCYCLONEaFOGGYaCLOSED UMBRELLAaNIGHT WITH STARSaSUNRISE OVER MOUNTAINS",
  "aSUNRISEaCITYSCAPE AT DUSKaSUNSET OVER BUILDINGSaRAINBOWaBRIDGE AT NIGHTaWATER WAVEaVOLCANO",
  "aMILKY WAYaEARTH GLOBE EUROPE-AFRICAcAMERICAScASIA-AUSTRALIAaGLOBE WITH MERIDIANS",
  "aNEW MOON SYMBOLaWAXING CRESCENT MOON SYMBOLaFIRST QUARTER MOON SYMBOL",
  "aWAXING GIBBOUS MOON SYMBOLaFULL MOON SYMBOLaWANING GIBBOUS MOON SYMBOL",
  "aLAST QUARTER MOON SYMBOLaWANING CRESCENT MOON SYMBOLaCRESCENT MOONaNEW MOON WITH FACE",
  "aFIRST QUARTER MOON WITH FACEaLAST QUARTER MOON WITH FACEaFULL MOON WITH FACEaSUN WITH FACE",
  "aGLOWING STARaSHOOTING STARaTHERMOMETERaBLACK DROPLETaWHITE SUNcWITH SMALL CLOUDcBEHIND CLOUD",
  "eWITH RAINaCLOUD WITH RAINcSNOWcLIGHTNINGcTORNADOaFOGaWIND BLOWING FACEaHOT DOGaTACOaBURRITO",
  "aCHESTNUTaSEEDLINGaEVERGREEN TREEaDECIDUOUS TREEaPALM TREEaCACTUSaHOT PEPPERaTULIP",
  "aCHERRY BLOSSOMaROSEaHIBISCUSaSUNFLOWERaBLOSSOMaEAR OF MAIZEcRICEaHERBaFOUR LEAF CLOVER",
  "aMAPLE LEAFaFALLEN LEAFaLEAF FLUTTERING IN WINDaMUSHROOMaTOMATOaAUBERGINEaGRAPESaMELON",
  "aWATERMELONaTANGERINEaLEMONaBANANAaPINEAPPLEaRED APPLEaGREEN APPLEaPEARaPEACHaCHERRIES",
  "aSTRAWBERRYaHAMBURGERaSLICE OF PIZZAaMEAT ON BONEaPOULTRY LEGaRICE CRACKERbBALLaCOOKED RICE",
  "aCURRY AND RICEaSTEAMING BOWLaSPAGHETTIaBREADaFRENCH FRIESaROASTED SWEET POTATOaDANGOaODEN",
  "aSUSHIaFRIED SHRIMPaFISH CAKE WITH SWIRL DESIGNaSOFT ICE CREAMaSHAVED ICEaICE CREAMaDOUGHNUT",
  "aCOOKIEaCHOCOLATE BARaCANDYaLOLLIPOPaCUSTARDaHONEY POTaSHORTCAKEaBENTO BOXaPOT OF FOODaCOOKING",
  "aFORK AND KNIFEaTEACUP WITHOUT HANDLEaSAKE BOTTLE AND CUPaWINE GLASSaCOCKTAIL GLASS",
  "aTROPICAL DRINKaBEER MUGaCLINKING BEER MUGSaBABY BOTTLEaFORK AND KNIFE WITH PLATE",
  "aBOTTLE WITH POPPING CORKaPOPCORNaRIBBONaWRAPPED PRESENTaBIRTHDAY CAKEaJACK-O-LANTERN",
  "aCHRISTMAS TREEaFATHER CHRISTMASaFIREWORKSaFIREWORK SPARKLERaBALLOONaPARTY POPPER",
  "aCONFETTI BALLaTANABATA TREEaCROSSED FLAGSaPINE DECORATIONaJAPANESE DOLLSaCARP STREAMER",
  "aWIND CHIMEaMOON VIEWING CEREMONYaSCHOOL SATCHELaGRADUATION CAPaHEART WITH TIP ON THE LEFT",
  "aBOUQUET OF FLOWERSaMILITARY MEDALaREMINDER RIBBONaMUSICAL KEYBOARD WITH JACKS",
  "aSTUDIO MICROPHONEaLEVEL SLIDERaCONTROL KNOBSaBEAMED ASCENDING MUSICAL NOTES",
  "bDESCENDING MUSICAL NOTESaFILM FRAMESaADMISSION TICKETSaCAROUSEL HORSEaFERRIS WHEEL",
  "aROLLER COASTERaFISHING POLE AND FISHaMICROPHONEaMOVIE CAMERAaCINEMAaHEADPHONEaARTIST PALETTE",
  "aTOP HATaCIRCUS TENTaTICKETaCLAPPER BOARDaPERFORMING ARTSaVIDEO GAMEaDIRECT HITaSLOT MACHINE",
  "aBILLIARDSaGAME DIEaBOWLINGaFLOWER PLAYING CARDSaMUSICAL NOTEaMULTIPLE MUSICAL NOTESaSAXOPHONE",
  "aGUITARaMUSICAL KEYBOARDaTRUMPETaVIOLINaMUSICAL SCOREaRUNNING SHIRT WITH SASH",
  "aTENNIS RACQUET AND BALLaSKI AND SKI BOOTaBASKETBALL AND HOOPaCHEQUERED FLAGaSNOWBOARDER",
  "aRUNNERaSURFERaSPORTS MEDALaTROPHYaHORSE RACINGaAMERICAN FOOTBALLaRUGBY FOOTBALLaSWIMMER",
  "aWEIGHT LIFTERaGOLFERaRACING MOTORCYCLEbCARaCRICKET BAT AND BALLaVOLLEYBALL",
  "aFIELD HOCKEY STICK AND BALLaICE HOCKEY STICK AND PUCKaTABLE TENNIS PADDLE AND BALL",
  "aSNOW CAPPED MOUNTAINaCAMPINGaBEACH WITH UMBRELLAaBUILDING CONSTRUCTIONaHOUSE BUILDINGS",
  "aCITYSCAPEaDERELICT HOUSE BUILDINGaCLASSICAL BUILDINGaDESERTbISLANDaNATIONAL PARKaSTADIUM",
  "aHOUSE BUILDINGbWITH GARDENaOFFICE BUILDINGaJAPANESE POST OFFICEaEUROPEAN POST OFFICEaHOSPITAL",
  "aBANKaAUTOMATED TELLER MACHINEaHOTELaLOVE HOTELaCONVENIENCE STOREaSCHOOLaDEPARTMENT STORE",
  "aFACTORYaIZAKAYA LANTERNaJAPANESE CASTLEaEUROPEAN CASTLEaWHITE PENNANTaBLACK PENNANT",
  "aWAVING WHITE FLAGbBLACK FLAGaROSETTEaBLACK ROSETTEaLABELaBADMINTON RACQUET AND SHUTTLECOCK",
  "aBOW AND ARROWaAMPHORAaEMOJI MODIFIER FITZPATRICK TYPE-1-2dTYPE-3dTYPE-4dTYPE-5dTYPE-6aRAT",
  "aMOUSEaOXaWATER BUFFALOaCOWaTIGERaLEOPARDaRABBITaCATaDRAGONaCROCODILEaWHALEaSNAILaSNAKEaHORSE",
  "aRAMaGOATaSHEEPaMONKEYaROOSTERaCHICKENaDOGaPIGaBOARaELEPHANTaOCTOPUSaSPIRAL SHELLaBUGaANT",
  "aHONEYBEEaLADY BEETLEaFISHaTROPICAL FISHaBLOWFISHaTURTLEaHATCHING CHICKaBABY CHICK",
  "aFRONT-FACING BABY CHICKaBIRDaPENGUINaKOALAaPOODLEaDROMEDARY CAMELaBACTRIAN CAMELaDOLPHIN",
  "aMOUSE FACEaCOW FACEaTIGER FACEaRABBIT FACEaCAT FACEaDRAGON FACEaSPOUTING WHALEaHORSE FACE",
  "aMONKEY FACEaDOG FACEaPIG FACEaFROG FACEaHAMSTER FACEaWOLF FACEaBEAR FACEaPANDA FACEaPIG NOSE",
  "aPAW PRINTSaCHIPMUNKaEYESaEYEaEARaNOSEaMOUTHaTONGUEaWHITE UP POINTING BACKHAND INDEX",
  "bDOWN POINTING BACKHAND INDEXbLEFT POINTING BACKHAND INDEXbRIGHT POINTING BACKHAND INDEX",
  "aFISTED HAND SIGNaWAVING HAND SIGNaOK HAND SIGNaTHUMBS UP SIGNbDOWN SIGNaCLAPPING HANDS SIGN",
  "aOPEN HANDS SIGNaCROWNaWOMANS HATaEYEGLASSESaNECKTIEaT-SHIRTaJEANSaDRESSaKIMONOaBIKINI",
  "aWOMANS CLOTHESaPURSEaHANDBAGaPOUCHaMANS SHOEaATHLETIC SHOEaHIGH-HEELED SHOEaWOMANS SANDAL",
  "bBOOTSaFOOTPRINTSaBUST IN SILHOUETTEaBUSTS IN SILHOUETTEaBOYaGIRLaMANaWOMANaFAMILY",
  "aMAN AND WOMAN HOLDING HANDSaTWO MEN HOLDING HANDSbWOMEN HOLDING HANDSaPOLICE OFFICER",
  "aWOMAN WITH BUNNY EARSaBRIDE WITH VEILaPERSON WITH BLOND HAIRaMAN WITH GUA PI MAOcTURBAN",
  "aOLDER MANbWOMANaBABYaCONSTRUCTION WORKERaPRINCESSaJAPANESE OGREbGOBLINaGHOSTaBABY ANGEL",
  "aEXTRATERRESTRIAL ALIENaALIEN MONSTERaIMPaSKULLaINFORMATION DESK PERSONaGUARDSMANaDANCER",
  "aLIPSTICKaNAIL POLISHaFACE MASSAGEaHAIRCUTaBARBER POLEaSYRINGEaPILLaKISS MARKaLOVE LETTERaRING",
  "aGEM STONEaKISSaBOUQUETaCOUPLE WITH HEARTaWEDDINGaBEATING HEARTaBROKEN HEARTaTWO HEARTS",
  "aSPARKLING HEARTaGROWING HEARTaHEART WITH ARROWaBLUE HEARTaGREEN HEARTaYELLOW HEART",
  "aPURPLE HEARTaHEART WITH RIBBONaREVOLVING HEARTSaHEART DECORATION",
  "aDIAMOND SHAPE WITH A DOT INSIDEaELECTRIC LIGHT BULBaANGER SYMBOLaBOMBaSLEEPING SYMBOL",
  "aCOLLISION SYMBOLaSPLASHING SWEAT SYMBOLaDROPLETaDASH SYMBOLaPILE OF POOaFLEXED BICEPS",
  "aDIZZY SYMBOLaSPEECH BALLOONaTHOUGHT BALLOONaWHITE FLOWERaHUNDRED POINTS SYMBOLaMONEY BAG",
  "aCURRENCY EXCHANGEaHEAVY DOLLAR SIGNaCREDIT CARDaBANKNOTE WITH YEN SIGNcDOLLAR SIGNcEURO SIGN",
  "cPOUND SIGNaMONEY WITH WINGSaCHART WITH UPWARDS TREND AND YEN SIGNaSEATaPERSONAL COMPUTER",
  "aBRIEFCASEaMINIDISCaFLOPPY DISKaOPTICAL DISCaDVDaFILE FOLDERaOPEN FILE FOLDERaPAGE WITH CURL",
  "bFACING UPaCALENDARaTEAR-OFF CALENDARaCARD INDEXaCHART WITH UPWARDS TRENDcDOWNWARDS TREND",
  "aBAR CHARTaCLIPBOARDaPUSHPINaROUND PUSHPINaPAPERCLIPaSTRAIGHT RULERaTRIANGULAR RULER",
  "aBOOKMARK TABSaLEDGERaNOTEBOOKbWITH DECORATIVE COVERaCLOSED BOOKaOPEN BOOKaGREEN BOOK",
  "aBLUE BOOKaORANGE BOOKaBOOKSaNAME BADGEaSCROLLaMEMOaTELEPHONE RECEIVERaPAGERaFAX MACHINE",
  "aSATELLITE ANTENNAaPUBLIC ADDRESS LOUDSPEAKERaCHEERING MEGAPHONEaOUTBOX TRAYaINBOX TRAY",
  "aPACKAGEaE-MAIL SYMBOLaINCOMING ENVELOPEaENVELOPE WITH DOWNWARDS ARROW ABOVE",
  "aCLOSED MAILBOX WITH LOWERED FLAGdRAISED FLAGaOPEN MAILBOX WITH RAISED FLAGdLOWERED FLAG",
  "aPOSTBOXaPOSTAL HORNaNEWSPAPERaMOBILE PHONEcWITH RIGHTWARDS ARROW AT LEFTaVIBRATION MODE",
  "aMOBILE PHONE OFFaNO MOBILE PHONESaANTENNA WITH BARSaCAMERAbWITH FLASHaVIDEO CAMERAaTELEVISION",
  "aRADIOaVIDEOCASSETTEaFILM PROJECTORaPORTABLE STEREOaPRAYER BEADSaTWISTED RIGHTWARDS ARROWS",
  "aCLOCKWISE RIGHTWARDS AND LEFTWARDS OPEN CIRCLE ARROWShWITH CIRCLED ONE OVERLAY",
  "bDOWNWARDS AND UPWARDS OPEN CIRCLE ARROWS",
  "aANTICLOCKWISE DOWNWARDS AND UPWARDS OPEN CIRCLE ARROWSaLOW BRIGHTNESS SYMBOL",
  "aHIGH BRIGHTNESS SYMBOLaSPEAKER WITH CANCELLATION STROKEaSPEAKERbWITH ONE SOUND WAVE",
  "cTHREE SOUND WAVESaBATTERYaELECTRIC PLUGaLEFT-POINTING MAGNIFYING GLASS",
  "aRIGHT-POINTING MAGNIFYING GLASSaLOCK WITH INK PENaCLOSED LOCK WITH KEYaKEYaLOCKaOPEN LOCK",
  "aBELLbWITH CANCELLATION STROKEaBOOKMARKaLINK SYMBOLaRADIO BUTTON",
  "aBACK WITH LEFTWARDS ARROW ABOVEaEND WITH LEFTWARDS ARROW ABOVE",
  "aON WITH EXCLAMATION MARK WITH LEFT RIGHT ARROW ABOVEaSOON WITH RIGHTWARDS ARROW ABOVE",
  "aTOP WITH UPWARDS ARROW ABOVEaNO ONE UNDER EIGHTEEN SYMBOLaKEYCAP TEN",
  "aINPUT SYMBOL FOR LATIN CAPITAL LETTERSeSMALL LETTERSdNUMBERSdSYMBOLSdLATIN LETTERSaFIRE",
  "aELECTRIC TORCHaWRENCHaHAMMERaNUT AND BOLTaHOCHOaPISTOLaMICROSCOPEaTELESCOPEaCRYSTAL BALL",
  "aSIX POINTED STAR WITH MIDDLE DOTaJAPANESE SYMBOL FOR BEGINNERaTRIDENT EMBLEM",
  "aBLACK SQUARE BUTTONaWHITE SQUARE BUTTONaLARGE RED CIRCLEbBLUE CIRCLEbORANGE DIAMOND",
  "bBLUE DIAMONDaSMALL ORANGE DIAMONDbBLUE DIAMONDaUP-POINTING RED TRIANGLE",
  "aDOWN-POINTING RED TRIANGLEaUP-POINTING SMALL RED TRIANGLEaDOWN-POINTING SMALL RED TRIANGLE",
  "aLOWER RIGHT SHADOWED WHITE CIRCLEaUPPER RIGHT SHADOWED WHITE CIRCLEaCIRCLED CROSS POMMEE",
  "aCROSS POMMEE WITH HALF-CIRCLE BELOWbPOMMEEaNOTCHED LEFT SEMICIRCLE WITH THREE DOTS",
  "bRIGHT SEMICIRCLE WITH THREE DOTSaSYMBOL FOR MARKS CHAPTERaWHITE LATIN CROSSaHEAVY LATIN CROSS",
  "aCELTIC CROSSaOM SYMBOLaDOVE OF PEACEaKAABAaMOSQUEaSYNAGOGUEaMENORAH WITH NINE BRANCHES",
  "aBOWL OF HYGIEIAaCLOCK FACE ONE OCLOCKcTWO OCLOCKcTHREE OCLOCKcFOUR OCLOCKcFIVE OCLOCK",
  "cSIX OCLOCKcSEVEN OCLOCKcEIGHT OCLOCKcNINE OCLOCKcTEN OCLOCKcELEVEN OCLOCKcTWELVE OCLOCK",
  "cONE-THIRTYcTWO-THIRTYcTHREE-THIRTYcFOUR-THIRTYcFIVE-THIRTYcSIX-THIRTYcSEVEN-THIRTY",
  "cEIGHT-THIRTYcNINE-THIRTYcTEN-THIRTYcELEVEN-THIRTYcTWELVE-THIRTYaRIGHT SPEAKER",
  "cWITH ONE SOUND WAVEdTHREE SOUND WAVESaBULLHORNbWITH SOUND WAVESaRINGING BELLaBOOKaCANDLE",
  "aMANTELPIECE CLOCKaBLACK SKULL AND CROSSBONESaNO PIRACYaHOLEaMAN IN BUSINESS SUIT LEVITATING",
  "aSLEUTH OR SPYaDARK SUNGLASSESaSPIDERbWEBaJOYSTICKaMAN DANCINGaLEFT HAND TELEPHONE RECEIVER",
  "aTELEPHONE RECEIVER WITH PAGEaRIGHT HAND TELEPHONE RECEIVERaWHITE TOUCHTONE TELEPHONE",
  "aBLACK TOUCHTONE TELEPHONEaTELEPHONE ON TOP OF MODEMaCLAMSHELL MOBILE PHONEaBACK OF ENVELOPE",
  "aSTAMPED ENVELOPEaENVELOPE WITH LIGHTNINGaFLYING ENVELOPEaPEN OVER STAMPED ENVELOPE",
  "aLINKED PAPERCLIPSaBLACK PUSHPINaLOWER LEFT PENCILcBALLPOINT PENcFOUNTAIN PENcPAINTBRUSH",
  "cCRAYONaLEFT WRITING HANDaTURNED OK HAND SIGNaRAISED HAND WITH FINGERS SPLAYED",
  "aREVERSED RAISED HAND WITH FINGERS SPLAYEDbTHUMBS UP SIGNcDOWN SIGNbVICTORY HAND",
  "bHAND WITH MIDDLE FINGER EXTENDEDaRAISED HAND WITH PART BETWEEN MIDDLE AND RING FINGERS",
  "aWHITE DOWN POINTING LEFT HAND INDEXaSIDEWAYS WHITE LEFT POINTING INDEXcRIGHT POINTING INDEX",
  "bBLACK LEFT POINTING INDEXcRIGHT POINTING INDEXaBLACK LEFT POINTING BACKHAND INDEX",
  "bRIGHT POINTING BACKHAND INDEXaSIDEWAYS WHITE UP POINTING INDEXcDOWN POINTING INDEX",
  "bBLACK UP POINTING INDEXcDOWN POINTING INDEXaBLACK UP POINTING BACKHAND INDEX",
  "bDOWN POINTING BACKHAND INDEXbHEARTaDESKTOP COMPUTERaKEYBOARD AND MOUSE",
  "aTHREE NETWORKED COMPUTERSaPRINTERaPOCKET CALCULATORaBLACK HARD SHELL FLOPPY DISK",
  "aWHITE HARD SHELL FLOPPY DISKaSOFT SHELL FLOPPY DISKaTAPE CARTRIDGEaWIRED KEYBOARD",
  "aONE BUTTON MOUSEaTWO BUTTON MOUSEaTHREE BUTTON MOUSEaTRACKBALLaOLD PERSONAL COMPUTER",
  "aHARD DISKaSCREENaPRINTER ICONaFAX ICONaOPTICAL DISC ICONaDOCUMENT WITH TEXTdAND PICTURE",
  "cPICTUREaFRAME WITH PICTUREcTILEScAN XaBLACK FOLDERaFOLDERaOPEN FOLDERaCARD INDEX DIVIDERS",
  "bFILE BOXaFILE CABINETaEMPTY NOTEcPAGEcPADaNOTEbPAGEbPADaEMPTY DOCUMENTbPAGEbPAGESaDOCUMENT",
  "aPAGEaPAGESaWASTEBASKETaSPIRAL NOTE PADbCALENDAR PADaDESKTOP WINDOWaMINIMIZEaMAXIMIZEaOVERLAP",
  "aCLOCKWISE RIGHT AND LEFT SEMICIRCLE ARROWSaCANCELLATION XaINCREASE FONT SIZE SYMBOL",
  "aDECREASE FONT SIZE SYMBOLaCOMPRESSIONaOLD KEYaROLLED-UP NEWSPAPERaPAGE WITH CIRCLED TEXT",
  "aSTOCK CHARTaDAGGER KNIFEaLIPSaSPEAKING HEAD IN SILHOUETTEaTHREE RAYS ABOVEcBELOWcLEFTcRIGHT",
  "aLEFT SPEECH BUBBLEaRIGHT SPEECH BUBBLEaTWO SPEECH BUBBLESaTHREE SPEECH BUBBLES",
  "aLEFT THOUGHT BUBBLEaRIGHT THOUGHT BUBBLEaLEFT ANGER BUBBLEaRIGHT ANGER BUBBLEaMOOD BUBBLE",
  "aLIGHTNING MOOD BUBBLEbMOODaBALLOT BOX WITH BALLOTbSCRIPT XbBOX WITH SCRIPT XbBOLD SCRIPT X",
  "bBOX WITH BOLD SCRIPT XaLIGHT CHECK MARKaBALLOT BOX WITH BOLD CHECKaWORLD MAPaMOUNT FUJI",
  "aTOKYO TOWERaSTATUE OF LIBERTYaSILHOUETTE OF JAPANaMOYAIaGRINNING FACEcWITH SMILING EYES",
  "aFACE WITH TEARS OF JOYaSMILING FACE WITH OPEN MOUTHfAND SMILING EYESgCOLD SWEAT",
  "gTIGHTLY-CLOSED EYESdHALOdHORNSaWINKING FACEaSMILING FACE WITH SMILING EYES",
  "aFACE SAVOURING DELICIOUS FOODaRELIEVED FACEaSMILING FACE WITH HEART-SHAPED EYESdSUNGLASSES",
  "aSMIRKING FACEaNEUTRAL FACEaEXPRESSIONLESS FACEaUNAMUSED FACEaFACE WITH COLD SWEAT",
  "aPENSIVE FACEaCONFUSED FACEaCONFOUNDED FACEaKISSING FACEaFACE THROWING A KISS",
  "aKISSING FACE WITH SMILING EYESdCLOSED EYESaFACE WITH STUCK-OUT TONGUEeAND WINKING EYE",
  "fTIGHTLY-CLOSED EYESaDISAPPOINTED FACEaWORRIED FACEaANGRY FACEaPOUTING FACEaCRYING FACE",
  "aPERSEVERING FACEaFACE WITH LOOK OF TRIUMPHaDISAPPOINTED BUT RELIEVED FACE",
  "aFROWNING FACE WITH OPEN MOUTHaANGUISHED FACEaFEARFUL FACEaWEARY FACEaSLEEPY FACEaTIRED FACE",
  "aGRIMACING FACEaLOUDLY CRYING FACEaFACE WITH OPEN MOUTHaHUSHED FACE",
  "aFACE WITH OPEN MOUTH AND COLD SWEATbSCREAMING IN FEARaASTONISHED FACEaFLUSHED FACE",
  "aSLEEPING FACEaDIZZY FACEaFACE WITHOUT MOUTHbWITH MEDICAL MASK",
  "aGRINNING CAT FACE WITH SMILING EYESaCAT FACE WITH TEARS OF JOY",
  "aSMILING CAT FACE WITH OPEN MOUTHeHEART-SHAPED EYESaCAT FACE WITH WRY SMILE",
  "aKISSING CAT FACE WITH CLOSED EYESaPOUTING CAT FACEaCRYING CAT FACEaWEARY CAT FACE",
  "aSLIGHTLY FROWNING FACEbSMILING FACEaUPSIDE-DOWN FACEaFACE WITH ROLLING EYEScNO GOOD GESTURE",
  "cOK GESTUREaPERSON BOWING DEEPLYaSEE-NO-EVIL MONKEYaHEAR-NO-EVIL MONKEYaSPEAK-NO-EVIL MONKEY",
  "aHAPPY PERSON RAISING ONE HANDaPERSON RAISING BOTH HANDS IN CELEBRATIONbFROWNING",
  "bWITH POUTING FACEcFOLDED HANDSaNORTH WEST POINTING LEAFaSOUTH WEST POINTING LEAF",
  "aNORTH EAST POINTING LEAFaSOUTH EAST POINTING LEAFaTURNED NORTH WEST POINTING LEAF",
  "bSOUTH WEST POINTING LEAFbNORTH EAST POINTING LEAFbSOUTH EAST POINTING LEAF",
  "aNORTH WEST POINTING VINE LEAFaSOUTH WEST POINTING VINE LEAFaNORTH EAST POINTING VINE LEAF",
  "aSOUTH EAST POINTING VINE LEAFaHEAVY NORTH WEST POINTING VINE LEAF",
  "bSOUTH WEST POINTING VINE LEAFbNORTH EAST POINTING VINE LEAFbSOUTH EAST POINTING VINE LEAF",
  "aNORTH WEST POINTING BUDaSOUTH WEST POINTING BUDaNORTH EAST POINTING BUD",
  "aSOUTH EAST POINTING BUDaHEAVY NORTH WEST POINTING BUDbSOUTH WEST POINTING BUD",
  "bNORTH EAST POINTING BUDbSOUTH EAST POINTING BUDaHOLLOW QUILT SQUARE ORNAMENTeIN BLACK SQUARE",
  "aSOLID QUILT SQUARE ORNAMENTeIN BLACK SQUAREaLEFTWARDS ROCKETaUPWARDS ROCKETaRIGHTWARDS ROCKET",
  "aDOWNWARDS ROCKETaSCRIPT LIGATURE ET ORNAMENTaHEAVY SCRIPT LIGATURE ET ORNAMENT",
  "aLIGATURE OPEN ET ORNAMENTaHEAVY LIGATURE OPEN ET ORNAMENTbAMPERSAND ORNAMENT",
  "aSWASH AMPERSAND ORNAMENTaSANS-SERIF HEAVY DOUBLE TURNED COMMA QUOTATION MARK ORNAMENT",
  "dCOMMA QUOTATION MARK ORNAMENTcLOW DOUBLE COMMA QUOTATION MARK ORNAMENT",
  "aHEAVY INTERROBANG ORNAMENTaSANS-SERIF INTERROBANG ORNAMENT",
  "aHEAVY SANS-SERIF INTERROBANG ORNAMENTaVERY HEAVY SOLIDUScREVERSE SOLIDUSaCHECKER BOARD",
  "aREVERSE CHECKER BOARDaROCKETaHELICOPTERaSTEAM LOCOMOTIVEaRAILWAY CARaHIGH-SPEED TRAIN",
  "cWITH BULLET NOSEaTRAINaMETROaLIGHT RAILaSTATIONaTRAMbCARaBUSaONCOMING BUSaTROLLEYBUSaBUS STOP",
  "aMINIBUSaAMBULANCEaFIRE ENGINEaPOLICE CARaONCOMING POLICE CARaTAXIaONCOMING TAXIaAUTOMOBILE",
  "aONCOMING AUTOMOBILEaRECREATIONAL VEHICLEaDELIVERY TRUCKaARTICULATED LORRYaTRACTORaMONORAIL",
  "aMOUNTAIN RAILWAYaSUSPENSION RAILWAYaMOUNTAIN CABLEWAYaAERIAL TRAMWAYaSHIPaROWBOATaSPEEDBOAT",
  "aHORIZONTAL TRAFFIC LIGHTaVERTICAL TRAFFIC LIGHTaCONSTRUCTION SIGNaPOLICE CARS REVOLVING LIGHT",
  "aTRIANGULAR FLAG ON POSTaDOORaNO ENTRY SIGNaSMOKING SYMBOLaNO SMOKING SYMBOL",
  "aPUT LITTER IN ITS PLACE SYMBOLaDO NOT LITTER SYMBOLaPOTABLE WATER SYMBOL",
  "aNON-POTABLE WATER SYMBOLaBICYCLEaNO BICYCLESaBICYCLISTaMOUNTAIN BICYCLISTaPEDESTRIAN",
  "aNO PEDESTRIANSaCHILDREN CROSSINGaMENS SYMBOLaWOMENS SYMBOLaRESTROOMaBABY SYMBOLaTOILET",
  "aWATER CLOSETaSHOWERaBATHaBATHTUBaPASSPORT CONTROLaCUSTOMSaBAGGAGE CLAIMaLEFT LUGGAGE",
  "aTRIANGLE WITH ROUNDED CORNERSaPROHIBITED SIGNaCIRCLED INFORMATION SOURCEaBOYS SYMBOL",
  "aGIRLS SYMBOLaCOUCH AND LAMPaSLEEPING ACCOMMODATIONaSHOPPING BAGSaBELLHOP BELLaBED",
  "aPLACE OF WORSHIPaOCTAGONAL SIGNaSHOPPING TROLLEYaSTUPAaPAGODAaHINDU TEMPLEaHUTaELEVATOR/1F6DC",
  "aWIRELESSaPLAYGROUND SLIDEaWHEELaRING BUOYaHAMMER AND WRENCHaSHIELDaOIL DRUMaMOTORWAY",
  "aRAILWAY TRACKaMOTOR BOATaUP-POINTING MILITARY AIRPLANEbAIRPLANEbSMALL AIRPLANEaSMALL AIRPLANE",
  "aNORTHEAST-POINTING AIRPLANEaAIRPLANE DEPARTUREbARRIVING/1F6F0aSATELLITEaONCOMING FIRE ENGINE",
  "aDIESEL LOCOMOTIVEaPASSENGER SHIPaSCOOTERaMOTOR SCOOTERaCANOEaSLEDaFLYING SAUCERaSKATEBOARD",
  "aAUTO RICKSHAWaPICKUP TRUCKaROLLER SKATE/1F700aALCHEMICAL SYMBOL FOR QUINTESSENCEdAIRdFIRE",
  "dEARTHdWATERdAQUAFORTISdAQUA REGIAeREGIA-2eVITAEeVITAE-2dVINEGARdVINEGAR-2dVINEGAR-3dSULFUR",
  "dPHILOSOPHERS SULFURdBLACK SULFURdMERCURY SUBLIMATEeSUBLIMATE-2eSUBLIMATE-3dCINNABARdSALT",
  "dNITREdVITRIOLdVITRIOL-2dROCK SALTeSALT-2dGOLDdSILVERdIRON OREeORE-2dCROCUS OF IRON",
  "dREGULUS OF IRONdCOPPER OREdIRON-COPPER OREdSUBLIMATE OF COPPERdCROCUS OF COPPERfCOPPER-2",
  "dCOPPER ANTIMONIATEdSALT OF COPPER ANTIMONIATEdSUBLIMATE OF SALT OF COPPERdVERDIGRISdTIN ORE",
  "dLEAD OREdANTIMONY OREdSUBLIMATE OF ANTIMONYdSALT OF ANTIMONYdSUBLIMATE OF SALT OF ANTIMONY",
  "dVINEGAR OF ANTIMONYdREGULUS OF ANTIMONYfANTIMONY-2dREGULUSdREGULUS-2dREGULUS-3dREGULUS-4",
  "dALKALIdALKALI-2dMARCASITEdSAL-AMMONIACdARSENICdREALGARdREALGAR-2dAURIPIGMENTdBISMUTH ORE",
  "dTARTARdTARTAR-2dQUICK LIMEdBORAXdBORAX-2dBORAX-3dALUMdOILdSPIRITdTINCTUREdGUMdWAXdPOWDERdCALX",
  "dTUTTYdCAPUT MORTUUMdSCEPTER OF JOVEdCADUCEUSdTRIDENTdSTARRED TRIDENTdLODESTONEdSOAPdURINE",
  "dHORSE DUNGdASHESdPOT ASHESdBRICKdPOWDERED BRICKdAMALGAMdSTRATUM SUPER STRATUMfSTRATUM-2",
  "dSUBLIMATIONdPRECIPITATEdDISTILLdDISSOLVEdDISSOLVE-2dPURIFYdPUTREFACTIONdCRUCIBLEdCRUCIBLE-2",
  "dCRUCIBLE-3dCRUCIBLE-4dCRUCIBLE-5dALEMBICdBATH OF MARYfVAPOURSdRETORTdHOURdNIGHTdDAY-NIGHT",
  "dMONTHdHALF DRAMeOUNCEaLOT OF FORTUNEaOCCULTATIONaLUNAR ECLIPSE/1F77BaHAUMEAaMAKEMAKEaGONGGONG",
  "aQUAOARaORCUSaBLACK LEFT-POINTING ISOSCELES RIGHT TRIANGLE",
  "bUP-POINTING ISOSCELES RIGHT TRIANGLEbRIGHT-POINTING ISOSCELES RIGHT TRIANGLE",
  "bDOWN-POINTING ISOSCELES RIGHT TRIANGLEbSLIGHTLY SMALL CIRCLEaMEDIUM BOLD WHITE CIRCLE",
  "aBOLD WHITE CIRCLEaHEAVY WHITE CIRCLEaVERY HEAVY WHITE CIRCLEaEXTREMELY HEAVY WHITE CIRCLE",
  "aWHITE CIRCLE CONTAINING BLACK SMALL CIRCLEaROUND TARGETaBLACK TINY SQUARE",
  "bSLIGHTLY SMALL SQUAREaLIGHT WHITE SQUAREaMEDIUM WHITE SQUAREaBOLD WHITE SQUARE",
  "aHEAVY WHITE SQUAREaVERY HEAVY WHITE SQUAREaEXTREMELY HEAVY WHITE SQUARE",
  "aWHITE SQUARE CONTAINING BLACK VERY SMALL SQUAREeMEDIUM SQUAREaSQUARE TARGET",
  "aBLACK TINY DIAMONDbVERY SMALL DIAMONDbMEDIUM SMALL DIAMOND",
  "aWHITE DIAMOND CONTAINING BLACK VERY SMALL DIAMONDeMEDIUM DIAMONDaDIAMOND TARGET",
  "aBLACK TINY LOZENGEbVERY SMALL LOZENGEbMEDIUM SMALL LOZENGE",
  "aWHITE LOZENGE CONTAINING BLACK SMALL LOZENGEaTHIN GREEK CROSSaLIGHT GREEK CROSS",
  "aMEDIUM GREEK CROSSaBOLD GREEK CROSSaVERY BOLD GREEK CROSSbHEAVY GREEK CROSS",
  "aEXTREMELY HEAVY GREEK CROSSaTHIN SALTIREaLIGHT SALTIREaMEDIUM SALTIREaBOLD SALTIRE",
  "aHEAVY SALTIREaVERY HEAVY SALTIREaEXTREMELY HEAVY SALTIREaLIGHT FIVE SPOKED ASTERISK",
  "aMEDIUM FIVE SPOKED ASTERISKaBOLD FIVE SPOKED ASTERISKaHEAVY FIVE SPOKED ASTERISK",
  "aVERY HEAVY FIVE SPOKED ASTERISKaEXTREMELY HEAVY FIVE SPOKED ASTERISK",
  "aLIGHT SIX SPOKED ASTERISKaMEDIUM SIX SPOKED ASTERISKaBOLD SIX SPOKED ASTERISK",
  "aHEAVY SIX SPOKED ASTERISKaVERY HEAVY SIX SPOKED ASTERISKaEXTREMELY HEAVY SIX SPOKED ASTERISK",
  "aLIGHT EIGHT SPOKED ASTERISKaMEDIUM EIGHT SPOKED ASTERISKaBOLD EIGHT SPOKED ASTERISK",
  "aHEAVY EIGHT SPOKED ASTERISKaVERY HEAVY EIGHT SPOKED ASTERISKaLIGHT THREE POINTED BLACK STAR",
  "aMEDIUM THREE POINTED BLACK STARaTHREE POINTED BLACK STARaMEDIUM THREE POINTED PINWHEEL STAR",
  "aLIGHT FOUR POINTED BLACK STARaMEDIUM FOUR POINTED BLACK STARaFOUR POINTED BLACK STAR",
  "aMEDIUM FOUR POINTED PINWHEEL STARaREVERSE LIGHT FOUR POINTED PINWHEEL STAR",
  "aLIGHT FIVE POINTED BLACK STARaHEAVY FIVE POINTED BLACK STARaMEDIUM SIX POINTED BLACK STAR",
  "aHEAVY SIX POINTED BLACK STARaSIX POINTED PINWHEEL STARaMEDIUM EIGHT POINTED BLACK STAR",
  "aHEAVY EIGHT POINTED BLACK STARaVERY HEAVY EIGHT POINTED BLACK STAR",
  "aHEAVY EIGHT POINTED PINWHEEL STARaLIGHT TWELVE POINTED BLACK STAR",
  "aHEAVY TWELVE POINTED BLACK STARdPINWHEEL STARaCIRCLED TRIANGLEaNEGATIVE CIRCLED TRIANGLE",
  "aCIRCLED SQUAREaNEGATIVE CIRCLED SQUAREaNINE POINTED WHITE STAR/1F7E0aLARGE ORANGE CIRCLE",
  "bYELLOW CIRCLEbGREEN CIRCLEbPURPLE CIRCLEbBROWN CIRCLEbRED SQUAREbBLUE SQUAREbORANGE SQUARE",
  "bYELLOW SQUAREbGREEN SQUAREbPURPLE SQUAREbBROWN SQUARE/1F7F0aHEAVY EQUALS SIGN/1F800",
  "aLEFTWARDS ARROW WITH SMALL TRIANGLE ARROWHEADaUPWARDS ARROW WITH SMALL TRIANGLE ARROWHEAD",
  "aRIGHTWARDS ARROW WITH SMALL TRIANGLE ARROWHEADaDOWNWARDS ARROW WITH SMALL TRIANGLE ARROWHEAD",
  "aLEFTWARDS ARROW WITH MEDIUM TRIANGLE ARROWHEADaUPWARDS ARROW WITH MEDIUM TRIANGLE ARROWHEAD",
  "aRIGHTWARDS ARROW WITH MEDIUM TRIANGLE ARROWHEAD",
  "aDOWNWARDS ARROW WITH MEDIUM TRIANGLE ARROWHEADaLEFTWARDS ARROW WITH LARGE TRIANGLE ARROWHEAD",
  "aUPWARDS ARROW WITH LARGE TRIANGLE ARROWHEADaRIGHTWARDS ARROW WITH LARGE TRIANGLE ARROWHEAD",
  "aDOWNWARDS ARROW WITH LARGE TRIANGLE ARROWHEAD/1F810",
  "aLEFTWARDS ARROW WITH SMALL EQUILATERAL ARROWHEAD",
  "aUPWARDS ARROW WITH SMALL EQUILATERAL ARROWHEAD",
  "aRIGHTWARDS ARROW WITH SMALL EQUILATERAL ARROWHEAD",
  "aDOWNWARDS ARROW WITH SMALL EQUILATERAL ARROWHEADaLEFTWARDS ARROW WITH EQUILATERAL ARROWHEAD",
  "aUPWARDS ARROW WITH EQUILATERAL ARROWHEADaRIGHTWARDS ARROW WITH EQUILATERAL ARROWHEAD",
  "aDOWNWARDS ARROW WITH EQUILATERAL ARROWHEADaHEAVY LEFTWARDS ARROW WITH EQUILATERAL ARROWHEAD",
  "bUPWARDS ARROW WITH EQUILATERAL ARROWHEADbRIGHTWARDS ARROW WITH EQUILATERAL ARROWHEAD",
  "bDOWNWARDS ARROW WITH EQUILATERAL ARROWHEADbLEFTWARDS ARROW WITH LARGE EQUILATERAL ARROWHEAD",
  "bUPWARDS ARROW WITH LARGE EQUILATERAL ARROWHEAD",
  "bRIGHTWARDS ARROW WITH LARGE EQUILATERAL ARROWHEAD",
  "bDOWNWARDS ARROW WITH LARGE EQUILATERAL ARROWHEAD",
  "aLEFTWARDS TRIANGLE-HEADED ARROW WITH NARROW SHAFT",
  "aUPWARDS TRIANGLE-HEADED ARROW WITH NARROW SHAFT",
  "aRIGHTWARDS TRIANGLE-HEADED ARROW WITH NARROW SHAFT",
  "aDOWNWARDS TRIANGLE-HEADED ARROW WITH NARROW SHAFT",
  "aLEFTWARDS TRIANGLE-HEADED ARROW WITH MEDIUM SHAFT",
  "aUPWARDS TRIANGLE-HEADED ARROW WITH MEDIUM SHAFT",
  "aRIGHTWARDS TRIANGLE-HEADED ARROW WITH MEDIUM SHAFT",
  "aDOWNWARDS TRIANGLE-HEADED ARROW WITH MEDIUM SHAFT",
  "aLEFTWARDS TRIANGLE-HEADED ARROW WITH BOLD SHAFTaUPWARDS TRIANGLE-HEADED ARROW WITH BOLD SHAFT",
  "aRIGHTWARDS TRIANGLE-HEADED ARROW WITH BOLD SHAFT",
  "aDOWNWARDS TRIANGLE-HEADED ARROW WITH BOLD SHAFT",
  "aLEFTWARDS TRIANGLE-HEADED ARROW WITH HEAVY SHAFT",
  "aUPWARDS TRIANGLE-HEADED ARROW WITH HEAVY SHAFT",
  "aRIGHTWARDS TRIANGLE-HEADED ARROW WITH HEAVY SHAFT",
  "aDOWNWARDS TRIANGLE-HEADED ARROW WITH HEAVY SHAFT",
  "aLEFTWARDS TRIANGLE-HEADED ARROW WITH VERY HEAVY SHAFT",
  "aUPWARDS TRIANGLE-HEADED ARROW WITH VERY HEAVY SHAFT",
  "aRIGHTWARDS TRIANGLE-HEADED ARROW WITH VERY HEAVY SHAFT",
  "aDOWNWARDS TRIANGLE-HEADED ARROW WITH VERY HEAVY SHAFTaLEFTWARDS FINGER-POST ARROW",
  "aUPWARDS FINGER-POST ARROWaRIGHTWARDS FINGER-POST ARROWaDOWNWARDS FINGER-POST ARROW",
  "aLEFTWARDS SQUARED ARROWaUPWARDS SQUARED ARROWaRIGHTWARDS SQUARED ARROW",
  "aDOWNWARDS SQUARED ARROWaLEFTWARDS COMPRESSED ARROWaUPWARDS COMPRESSED ARROW",
  "aRIGHTWARDS COMPRESSED ARROWaDOWNWARDS COMPRESSED ARROWaLEFTWARDS HEAVY COMPRESSED ARROW",
  "aUPWARDS HEAVY COMPRESSED ARROWaRIGHTWARDS HEAVY COMPRESSED ARROW",
  "aDOWNWARDS HEAVY COMPRESSED ARROWaLEFTWARDS HEAVY ARROWaUPWARDS HEAVY ARROW",
  "aRIGHTWARDS HEAVY ARROWaDOWNWARDS HEAVY ARROW/1F850aLEFTWARDS SANS-SERIF ARROW",
  "aUPWARDS SANS-SERIF ARROWaRIGHTWARDS SANS-SERIF ARROWaDOWNWARDS SANS-SERIF ARROW",
  "aNORTH WEST SANS-SERIF ARROWbEAST SANS-SERIF ARROWaSOUTH EAST SANS-SERIF ARROW",
  "bWEST SANS-SERIF ARROWaLEFT RIGHT SANS-SERIF ARROWaUP DOWN SANS-SERIF ARROW/1F860",
  "aWIDE-HEADED LEFTWARDS LIGHT BARB ARROWbUPWARDS LIGHT BARB ARROWbRIGHTWARDS LIGHT BARB ARROW",
  "bDOWNWARDS LIGHT BARB ARROWbNORTH WEST LIGHT BARB ARROWcEAST LIGHT BARB ARROW",
  "bSOUTH EAST LIGHT BARB ARROWcWEST LIGHT BARB ARROWbLEFTWARDS BARB ARROWbUPWARDS BARB ARROW",
  "bRIGHTWARDS BARB ARROWbDOWNWARDS BARB ARROWbNORTH WEST BARB ARROWcEAST BARB ARROW",
  "bSOUTH EAST BARB ARROWcWEST BARB ARROWbLEFTWARDS MEDIUM BARB ARROWbUPWARDS MEDIUM BARB ARROW",
  "bRIGHTWARDS MEDIUM BARB ARROWbDOWNWARDS MEDIUM BARB ARROWbNORTH WEST MEDIUM BARB ARROW",
  "cEAST MEDIUM BARB ARROWbSOUTH EAST MEDIUM BARB ARROWcWEST MEDIUM BARB ARROW",
  "bLEFTWARDS HEAVY BARB ARROWbUPWARDS HEAVY BARB ARROWbRIGHTWARDS HEAVY BARB ARROW",
  "bDOWNWARDS HEAVY BARB ARROWbNORTH WEST HEAVY BARB ARROWcEAST HEAVY BARB ARROW",
  "bSOUTH EAST HEAVY BARB ARROWcWEST HEAVY BARB ARROWbLEFTWARDS VERY HEAVY BARB ARROW",
  "bUPWARDS VERY HEAVY BARB ARROWbRIGHTWARDS VERY HEAVY BARB ARROW",
  "bDOWNWARDS VERY HEAVY BARB ARROWbNORTH WEST VERY HEAVY BARB ARROWcEAST VERY HEAVY BARB ARROW",
  "bSOUTH EAST VERY HEAVY BARB ARROWcWEST VERY HEAVY BARB ARROW/1F890",
  "aLEFTWARDS TRIANGLE ARROWHEADaUPWARDS TRIANGLE ARROWHEADaRIGHTWARDS TRIANGLE ARROWHEAD",
  "aDOWNWARDS TRIANGLE ARROWHEADaLEFTWARDS WHITE ARROW WITHIN TRIANGLE ARROWHEAD",
  "aUPWARDS WHITE ARROW WITHIN TRIANGLE ARROWHEAD",
  "aRIGHTWARDS WHITE ARROW WITHIN TRIANGLE ARROWHEAD",
  "aDOWNWARDS WHITE ARROW WITHIN TRIANGLE ARROWHEADaLEFTWARDS ARROW WITH NOTCHED TAIL",
  "aUPWARDS ARROW WITH NOTCHED TAILaRIGHTWARDS ARROW WITH NOTCHED TAIL",
  "aDOWNWARDS ARROW WITH NOTCHED TAILaHEAVY ARROW SHAFT WIDTH ONEeTWO THIRDSeONE HALFfTHIRD",
  "aLEFTWARDS BOTTOM-SHADED WHITE ARROWaRIGHTWARDS BOTTOM SHADED WHITE ARROW",
  "aLEFTWARDS TOP SHADED WHITE ARROWaRIGHTWARDS TOP SHADED WHITE ARROW",
  "aLEFTWARDS LEFT-SHADED WHITE ARROWaRIGHTWARDS RIGHT-SHADED WHITE ARROW",
  "aLEFTWARDS RIGHT-SHADED WHITE ARROWaRIGHTWARDS LEFT-SHADED WHITE ARROW",
  "aLEFTWARDS BACK-TILTED SHADOWED WHITE ARROWaRIGHTWARDS BACK-TILTED SHADOWED WHITE ARROW",
  "aLEFTWARDS FRONT-TILTED SHADOWED WHITE ARROWaRIGHTWARDS FRONT-TILTED SHADOWED WHITE ARROW",
  "aWHITE ARROW SHAFT WIDTH ONEeTWO THIRDS/1F8B0aARROW POINTING UPWARDS THEN NORTH WEST",
  "cRIGHTWARDS THEN CURVING SOUTH WEST/1F900aCIRCLED CROSS FORMEE WITH FOUR DOTSeTWO DOTScFORMEE",
  "aLEFT HALF CIRCLE WITH FOUR DOTSeTHREE DOTSeTWO DOTSeDOTcCIRCLEaDOWNWARD FACING HOOK",
  "cNOTCHED HOOKcHOOK WITH DOTcNOTCHED HOOK WITH DOTaPINCHED FINGERSaWHITE HEARTaBROWN HEART",
  "aPINCHING HANDaZIPPER-MOUTH FACEaMONEY-MOUTH FACEaFACE WITH THERMOMETERaNERD FACE",
  "aTHINKING FACEaFACE WITH HEAD-BANDAGEaROBOT FACEaHUGGING FACEaSIGN OF THE HORNSaCALL ME HAND",
  "aRAISED BACK OF HANDaLEFT-FACING FISTaRIGHT-FACING FISTaHANDSHAKE",
  "aHAND WITH INDEX AND MIDDLE FINGERS CROSSEDaI LOVE YOU HAND SIGNaFACE WITH COWBOY HAT",
  "aCLOWN FACEaNAUSEATED FACEaROLLING ON THE FLOOR LAUGHINGaDROOLING FACEaLYING FACEaFACE PALM",
  "aSNEEZING FACEaFACE WITH ONE EYEBROW RAISEDaGRINNING FACE WITH STAR EYES",
  "dONE LARGE AND ONE SMALL EYEaFACE WITH FINGER COVERING CLOSED LIPS",
  "aSERIOUS FACE WITH SYMBOLS COVERING MOUTH",
  "aSMILING FACE WITH SMILING EYES AND HAND COVERING MOUTHaFACE WITH OPEN MOUTH VOMITING",
  "aSHOCKED FACE WITH EXPLODING HEADaPREGNANT WOMANaBREAST-FEEDINGaPALMS UP TOGETHERaSELFIE",
  "aPRINCEaMAN IN TUXEDOaMOTHER CHRISTMASaSHRUGaPERSON DOING CARTWHEELaJUGGLINGaFENCER",
  "aMODERN PENTATHLONaWRESTLERSaWATER POLOaHANDBALLaDIVING MASKaWILTED FLOWER",
  "aDRUM WITH DRUMSTICKSaCLINKING GLASSESaTUMBLER GLASSaSPOONaGOAL NETaRIFLEaFIRST PLACE MEDAL",
  "aSECOND PLACE MEDALaTHIRD PLACE MEDALaBOXING GLOVEaMARTIAL ARTS UNIFORMaCURLING STONE",
  "aLACROSSE STICK AND BALLaSOFTBALLaFLYING DISCaCROISSANTaAVOCADOaCUCUMBERaBACONaPOTATOaCARROT",
  "aBAGUETTE BREADaGREEN SALADaSHALLOW PAN OF FOODaSTUFFED FLATBREADaEGGaGLASS OF MILKaPEANUTS",
  "aKIWIFRUITaPANCAKESaDUMPLINGaFORTUNE COOKIEaTAKEOUT BOXaCHOPSTICKSaBOWL WITH SPOON",
  "aCUP WITH STRAWaCOCONUTaBROCCOLIaPIEaPRETZELaCUT OF MEATaSANDWICHaCANNED FOODaLEAFY GREEN",
  "aMANGOaMOON CAKEaBAGELaSMILING FACE WITH SMILING EYES AND THREE HEARTSaYAWNING FACE",
  "aSMILING FACE WITH TEARaFACE WITH PARTY HORN AND PARTY HATcUNEVEN EYES AND WAVY MOUTH",
  "aOVERHEATED FACEaFREEZING FACEaNINJAaDISGUISED FACEaFACE HOLDING BACK TEARSbWITH PLEADING EYES",
  "aSARIaLAB COATaGOGGLESaHIKING BOOTaFLAT SHOEaCRABaLION FACEaSCORPIONaTURKEYaUNICORN FACEaEAGLE",
  "aDUCKaBATaSHARKaOWLaFOX FACEaBUTTERFLYaDEERaGORILLAaLIZARDaRHINOCEROSaSHRIMPaSQUID",
  "aGIRAFFE FACEaZEBRA FACEaHEDGEHOGaSAUROPODaT-REXaCRICKETaKANGAROOaLLAMAaPEACOCKaHIPPOPOTAMUS",
  "aPARROTaRACCOONaLOBSTERaMOSQUITOaMICROBEaBADGERaSWANaMAMMOTHaDODOaSLOTHaOTTERaORANGUTANaSKUNK",
  "aFLAMINGOaOYSTERaBEAVERaBISONaSEALaGUIDE DOGaPROBING CANEaEMOJI COMPONENT RED HAIRcCURLY HAIR",
  "cBALDcWHITE HAIRaBONEaLEGaFOOTaTOOTHaSUPERHEROaSUPERVILLAINaSAFETY VESTaEAR WITH HEARING AID",
  "aMOTORIZED WHEELCHAIRaMANUAL WHEELCHAIRaMECHANICAL ARMbLEGaCHEESE WEDGEaCUPCAKEaSALT SHAKER",
  "aBEVERAGE BOXaGARLICaONIONaFALAFELaWAFFLEaBUTTERaMATE DRINKaICE CUBEaBUBBLE TEAaTROLL",
  "aSTANDING PERSONaKNEELING PERSONaDEAF PERSONaFACE WITH MONOCLEaADULTaCHILDaOLDER ADULT",
  "aBEARDED PERSONaPERSON WITH HEADSCARFbIN STEAMY ROOMbCLIMBINGbIN LOTUS POSITIONaMAGEaFAIRY",
  "aVAMPIREaMERPERSONaELFaGENIEaZOMBIEaBRAINaORANGE HEARTaBILLED CAPaSCARFaGLOVESaCOATaSOCKS",
  "aRED GIFT ENVELOPEaFIRECRACKERaJIGSAW PUZZLE PIECEaTEST TUBEaPETRI DISHaDNA DOUBLE HELIX",
  "aCOMPASSaABACUSaFIRE EXTINGUISHERaTOOLBOXaBRICKaMAGNETaLUGGAGEaLOTION BOTTLEaSPOOL OF THREAD",
  "aBALL OF YARNaSAFETY PINaTEDDY BEARaBROOMaBASKETaROLL OF PAPERaBAR OF SOAPaSPONGEaRECEIPT",
  "aNAZAR AMULETaNEUTRAL CHESS KINGcQUEENcROOKcBISHOPcKNIGHTcPAWN",
  "aWHITE CHESS KNIGHT ROTATED FORTY-FIVE DEGREESaBLACK CHESS KNIGHT ROTATED FORTY-FIVE DEGREES",
  "aNEUTRAL CHESS KNIGHT ROTATED FORTY-FIVE DEGREESaWHITE CHESS KING ROTATED NINETY DEGREES",
  "cQUEEN ROTATED NINETY DEGREEScROOK ROTATED NINETY DEGREEScBISHOP ROTATED NINETY DEGREES",
  "cKNIGHT ROTATED NINETY DEGREEScPAWN ROTATED NINETY DEGREES",
  "aBLACK CHESS KING ROTATED NINETY DEGREEScQUEEN ROTATED NINETY DEGREES",
  "cROOK ROTATED NINETY DEGREEScBISHOP ROTATED NINETY DEGREEScKNIGHT ROTATED NINETY DEGREES",
  "cPAWN ROTATED NINETY DEGREESaNEUTRAL CHESS KING ROTATED NINETY DEGREES",
  "cQUEEN ROTATED NINETY DEGREEScROOK ROTATED NINETY DEGREEScBISHOP ROTATED NINETY DEGREES",
  "cKNIGHT ROTATED NINETY DEGREEScPAWN ROTATED NINETY DEGREES",
  "aWHITE CHESS KNIGHT ROTATED ONE HUNDRED THIRTY-FIVE DEGREES",
  "aBLACK CHESS KNIGHT ROTATED ONE HUNDRED THIRTY-FIVE DEGREES",
  "aNEUTRAL CHESS KNIGHT ROTATED ONE HUNDRED THIRTY-FIVE DEGREESaWHITE CHESS TURNED KINGdQUEEN",
  "dROOKdBISHOPdKNIGHTdPAWNaBLACK CHESS TURNED KINGdQUEENdROOKdBISHOPdKNIGHTdPAWN",
  "aNEUTRAL CHESS TURNED KINGdQUEENdROOKdBISHOPdKNIGHTdPAWN",
  "aWHITE CHESS KNIGHT ROTATED TWO HUNDRED TWENTY-FIVE DEGREES",
  "aBLACK CHESS KNIGHT ROTATED TWO HUNDRED TWENTY-FIVE DEGREES",
  "aNEUTRAL CHESS KNIGHT ROTATED TWO HUNDRED TWENTY-FIVE DEGREES",
  "aWHITE CHESS KING ROTATED TWO HUNDRED SEVENTY DEGREES",
  "cQUEEN ROTATED TWO HUNDRED SEVENTY DEGREEScROOK ROTATED TWO HUNDRED SEVENTY DEGREES",
  "cBISHOP ROTATED TWO HUNDRED SEVENTY DEGREEScKNIGHT ROTATED TWO HUNDRED SEVENTY DEGREES",
  "cPAWN ROTATED TWO HUNDRED SEVENTY DEGREESaBLACK CHESS KING ROTATED TWO HUNDRED SEVENTY DEGREES",
  "cQUEEN ROTATED TWO HUNDRED SEVENTY DEGREEScROOK ROTATED TWO HUNDRED SEVENTY DEGREES",
  "cBISHOP ROTATED TWO HUNDRED SEVENTY DEGREEScKNIGHT ROTATED TWO HUNDRED SEVENTY DEGREES",
  "cPAWN ROTATED TWO HUNDRED SEVENTY DEGREES",
  "aNEUTRAL CHESS KING ROTATED TWO HUNDRED SEVENTY DEGREES",
  "cQUEEN ROTATED TWO HUNDRED SEVENTY DEGREEScROOK ROTATED TWO HUNDRED SEVENTY DEGREES",
  "cBISHOP ROTATED TWO HUNDRED SEVENTY DEGREEScKNIGHT ROTATED TWO HUNDRED SEVENTY DEGREES",
  "cPAWN ROTATED TWO HUNDRED SEVENTY DEGREES",
  "aWHITE CHESS KNIGHT ROTATED THREE HUNDRED FIFTEEN DEGREES",
  "aBLACK CHESS KNIGHT ROTATED THREE HUNDRED FIFTEEN DEGREES",
  "aNEUTRAL CHESS KNIGHT ROTATED THREE HUNDRED FIFTEEN DEGREESaWHITE CHESS EQUIHOPPER",
  "aBLACK CHESS EQUIHOPPERaNEUTRAL CHESS EQUIHOPPERaWHITE CHESS EQUIHOPPER ROTATED NINETY DEGREES",
  "aBLACK CHESS EQUIHOPPER ROTATED NINETY DEGREESaNEUTRAL CHESS EQUIHOPPER ROTATED NINETY DEGREES",
  "aWHITE CHESS KNIGHT-QUEENcKNIGHT-ROOKcKNIGHT-BISHOPaBLACK CHESS KNIGHT-QUEENcKNIGHT-ROOK",
  "cKNIGHT-BISHOP/1FA60aXIANGQI RED GENERALcMANDARINcELEPHANTcHORSEcCHARIOTcCANNONcSOLDIER",
  "bBLACK GENERALcMANDARINcELEPHANTcHORSEcCHARIOTcCANNONcSOLDIER/1FA70aBALLET SHOES",
  "aONE-PIECE SWIMSUITaBRIEFSaSHORTSaTHONG SANDALaLIGHT BLUE HEARTaGREY HEARTaPINK HEART",
  "aDROP OF BLOODaADHESIVE BANDAGEaSTETHOSCOPEaX-RAYaCRUTCH/1FA80aYO-YOaKITEaPARACHUTEaBOOMERANG",
  "aMAGIC WANDaPINATAaNESTING DOLLSaMARACASaFLUTE/1FA90aRINGED PLANETaCHAIRaRAZORaAXEaDIYA LAMP",
  "aBANJOaMILITARY HELMETaACCORDIONaLONG DRUMaCOINaCARPENTRY SAWaSCREWDRIVERaLADDERaHOOKaMIRROR",
  "aWINDOWaPLUNGERaSEWING NEEDLEaKNOTaBUCKETaMOUSE TRAPaTOOTHBRUSHaHEADSTONEaPLACARDaROCK",
  "aMIRROR BALLaIDENTIFICATION CARDaLOW BATTERYaHAMSAaFOLDING HAND FANaHAIR PICKaKHANDAaFLYaWORM",
  "aBEETLEaCOCKROACHaPOTTED PLANTaWOODaFEATHERaLOTUSaCORALaEMPTY NESTaNEST WITH EGGSaHYACINTH",
  "aJELLYFISHaWING/1FABFaGOOSEaANATOMICAL HEARTaLUNGSaPEOPLE HUGGINGaPREGNANT MANbPERSON",
  "aPERSON WITH CROWN/1FACEaMOOSEaDONKEYaBLUEBERRIESaBELL PEPPERaOLIVEaFLATBREADaTAMALEaFONDUE",
  "aTEAPOTaPOURING LIQUIDaBEANSaJARaGINGER ROOTaPEA POD/1FAE0aMELTING FACEaSALUTING FACE",
  "aFACE WITH OPEN EYES AND HAND OVER MOUTHcPEEKING EYEcDIAGONAL MOUTHaDOTTED LINE FACE",
  "aBITING LIPaBUBBLESaSHAKING FACE/1FAF0aHAND WITH INDEX FINGER AND THUMB CROSSED",
  "aRIGHTWARDS HANDaLEFTWARDS HANDaPALM DOWN HANDbUP HANDaINDEX POINTING AT THE VIEWER",
  "aHEART HANDSaLEFTWARDS PUSHING HANDaRIGHTWARDS PUSHING HAND/1FB00aBLOCK SEXTANT-1bSEXTANT-2",
  "bSEXTANT-12bSEXTANT-3bSEXTANT-13bSEXTANT-23bSEXTANT-123bSEXTANT-4bSEXTANT-14bSEXTANT-24",
  "bSEXTANT-124bSEXTANT-34bSEXTANT-134bSEXTANT-234bSEXTANT-1234bSEXTANT-5bSEXTANT-15bSEXTANT-25",
  "bSEXTANT-125bSEXTANT-35bSEXTANT-235bSEXTANT-1235bSEXTANT-45bSEXTANT-145bSEXTANT-245",
  "bSEXTANT-1245bSEXTANT-345bSEXTANT-1345bSEXTANT-2345bSEXTANT-12345bSEXTANT-6bSEXTANT-16",
  "bSEXTANT-26bSEXTANT-126bSEXTANT-36bSEXTANT-136bSEXTANT-236bSEXTANT-1236bSEXTANT-46bSEXTANT-146",
  "bSEXTANT-1246bSEXTANT-346bSEXTANT-1346bSEXTANT-2346bSEXTANT-12346bSEXTANT-56bSEXTANT-156",
  "bSEXTANT-256bSEXTANT-1256bSEXTANT-356bSEXTANT-1356bSEXTANT-2356bSEXTANT-12356bSEXTANT-456",
  "bSEXTANT-1456bSEXTANT-2456bSEXTANT-12456bSEXTANT-3456bSEXTANT-13456bSEXTANT-23456",
  "aLOWER LEFT BLOCK DIAGONAL LOWER MIDDLE LEFT TO LOWER CENTREjRIGHT",
  "eUPPER MIDDLE LEFT TO LOWER CENTREjRIGHTfLEFT TO LOWER CENTRE",
  "bRIGHT BLOCK DIAGONAL UPPER MIDDLE LEFT TO UPPER CENTREjRIGHT",
  "eLOWER MIDDLE LEFT TO UPPER CENTREjRIGHTfLEFT TO UPPER CENTRE",
  "fMIDDLE LEFT TO UPPER MIDDLE RIGHTfCENTRE TO LOWER MIDDLE RIGHTfLEFT TO LOWER MIDDLE RIGHT",
  "fCENTRE TO UPPER MIDDLE RIGHTfLEFT TO UPPER MIDDLE RIGHTfCENTRE TO UPPER RIGHT",
  "bLEFT BLOCK DIAGONAL UPPER CENTRE TO UPPER MIDDLE RIGHTfLEFT TO UPPER MIDDLE RIGHT",
  "fCENTRE TO LOWER MIDDLE RIGHTfLEFT TO LOWER MIDDLE RIGHTfCENTRE TO LOWER RIGHT",
  "fMIDDLE LEFT TO LOWER MIDDLE RIGHT",
  "aUPPER RIGHT BLOCK DIAGONAL LOWER MIDDLE LEFT TO LOWER CENTREjRIGHT",
  "eUPPER MIDDLE LEFT TO LOWER CENTREjRIGHTfLEFT TO LOWER CENTRE",
  "bLEFT BLOCK DIAGONAL UPPER MIDDLE LEFT TO UPPER CENTREjRIGHTeLOWER MIDDLE LEFT TO UPPER CENTRE",
  "jRIGHTfLEFT TO UPPER CENTREfMIDDLE LEFT TO UPPER MIDDLE RIGHTfCENTRE TO LOWER MIDDLE RIGHT",
  "fLEFT TO LOWER MIDDLE RIGHTfCENTRE TO UPPER MIDDLE RIGHTfLEFT TO UPPER MIDDLE RIGHT",
  "fCENTRE TO UPPER RIGHTbRIGHT BLOCK DIAGONAL UPPER CENTRE TO UPPER MIDDLE RIGHT",
  "fLEFT TO UPPER MIDDLE RIGHTfCENTRE TO LOWER MIDDLE RIGHTfLEFT TO LOWER MIDDLE RIGHT",
  "fCENTRE TO LOWER RIGHTfMIDDLE LEFT TO LOWER MIDDLE RIGHT",
  "bAND RIGHT AND LOWER TRIANGULAR THREE QUARTERS BLOCK",
  "aLEFT AND LOWER AND RIGHT TRIANGULAR THREE QUARTERS BLOCK",
  "aUPPER AND LEFT AND LOWER TRIANGULAR THREE QUARTERS BLOCK",
  "aLEFT AND UPPER AND RIGHT TRIANGULAR THREE QUARTERS BLOCKbTRIANGULAR ONE QUARTER BLOCK",
  "aUPPER TRIANGULAR ONE QUARTER BLOCKaRIGHT TRIANGULAR ONE QUARTER BLOCK",
  "aLOWER TRIANGULAR ONE QUARTER BLOCKaVERTICAL ONE EIGHTH BLOCK-2dBLOCK-3dBLOCK-4dBLOCK-5",
  "dBLOCK-6dBLOCK-7aHORIZONTAL ONE EIGHTH BLOCK-2dBLOCK-3dBLOCK-4dBLOCK-5dBLOCK-6dBLOCK-7",
  "aLEFT AND LOWER ONE EIGHTH BLOCKcUPPER ONE EIGHTH BLOCKaRIGHT AND UPPER ONE EIGHTH BLOCK",
  "cLOWER ONE EIGHTH BLOCKaUPPER AND LOWER ONE EIGHTH BLOCKaHORIZONTAL ONE EIGHTH BLOCK-1358",
  "aUPPER ONE QUARTER BLOCKbTHREE EIGHTHS BLOCKbFIVE EIGHTHS BLOCKbTHREE QUARTERS BLOCK",
  "bSEVEN EIGHTHS BLOCKaRIGHT ONE QUARTER BLOCKbTHREE EIGHTHS BLOCKbFIVE EIGHTHS BLOCK",
  "bTHREE QUARTERS BLOCKbSEVEN EIGHTHS BLOCKaLEFT HALF MEDIUM SHADEaRIGHT HALF MEDIUM SHADE",
  "aUPPER HALF MEDIUM SHADEaLOWER HALF MEDIUM SHADEaINVERSE MEDIUM SHADE",
  "aUPPER HALF BLOCK AND LOWER HALF INVERSE MEDIUM SHADE",
  "cINVERSE MEDIUM SHADE AND LOWER HALF BLOCK/1FB94",
  "aLEFT HALF INVERSE MEDIUM SHADE AND RIGHT HALF BLOCKaCHECKER BOARD FILL",
  "aINVERSE CHECKER BOARD FILLaHEAVY HORIZONTAL FILLaUPPER LEFT TO LOWER RIGHT FILL",
  "bRIGHT TO LOWER LEFT FILLbAND LOWER TRIANGULAR HALF BLOCKaLEFT AND RIGHT TRIANGULAR HALF BLOCK",
  "aUPPER LEFT TRIANGULAR MEDIUM SHADEbRIGHT TRIANGULAR MEDIUM SHADE",
  "aLOWER RIGHT TRIANGULAR MEDIUM SHADEbLEFT TRIANGULAR MEDIUM SHADE",
  "aBOX DRAWINGS LIGHT DIAGONAL UPPER CENTRE TO MIDDLE LEFTiRIGHTeMIDDLE LEFT TO LOWER CENTRE",
  "fRIGHT TO LOWER CENTREeUPPER CENTRE TO MIDDLE LEFT TO LOWER CENTREiRIGHT TO LOWER CENTRE",
  "eMIDDLE LEFT TO LOWER CENTRE TO MIDDLE RIGHThUPPER CENTRE TO MIDDLE RIGHT",
  "eUPPER CENTRE TO MIDDLE LEFT AND MIDDLE RIGHT TO LOWER CENTRE",
  "iRIGHT AND MIDDLE LEFT TO LOWER CENTREjTO LOWER CENTRE TO MIDDLE LEFT",
  "iLEFT TO LOWER CENTRE TO MIDDLE RIGHT",
  "eMIDDLE LEFT TO UPPER CENTRE TO MIDDLE RIGHT TO LOWER CENTRE",
  "fRIGHT TO UPPER CENTRE TO MIDDLE LEFT TO LOWER CENTREeDIAMONDdHORIZONTAL WITH VERTICAL STROKE",
  "aARROWHEAD-SHAPED POINTERaINVERSE CHECK MARKaLEFT HALF RUNNING MANaRIGHT HALF RUNNING MAN",
  "aINVERSE DOWNWARDS ARROW WITH TIP LEFTWARDS",
  "aLEFTWARDS ARROW AND UPPER AND LOWER ONE EIGHTH BLOCK",
  "aRIGHTWARDS ARROW AND UPPER AND LOWER ONE EIGHTH BLOCK",
  "aDOWNWARDS ARROW AND RIGHT ONE EIGHTH BLOCKaUPWARDS ARROW AND RIGHT ONE EIGHTH BLOCK",
  "aLEFT HALF FOLDERaRIGHT HALF FOLDERaVOIDED GREEK CROSSaRIGHT OPEN SQUARED DOT",
  "aNEGATIVE DIAGONAL CROSScMIDDLE RIGHT TO LOWER CENTREcDIAMOND",
  "aWHITE HEAVY SALTIRE WITH ROUNDED CORNERSaLEFT THIRD WHITE RIGHT POINTING INDEX",
  "aMIDDLE THIRD WHITE RIGHT POINTING INDEXaRIGHT THIRD WHITE RIGHT POINTING INDEX",
  "aNEGATIVE SQUARED QUESTION MARKaSTICK FIGUREcWITH ARMS RAISEDcLEANING LEFTdRIGHTcWITH DRESS",
  "aWHITE UP-POINTING CHEVRON/1FBF0aSEGMENTED DIGIT ZEROcONEcTWOcTHREEcFOURcFIVEcSIXcSEVENcEIGHT",
  "cNINE/E0001aLANGUAGE TAG/E0020aTAG SPACEbEXCLAMATION MARKbQUOTATION MARKbNUMBER SIGN",
  "bDOLLAR SIGNbPERCENT SIGNbAMPERSANDbAPOSTROPHEbLEFT PARENTHESISbRIGHT PARENTHESISbASTERISK",
  "bPLUS SIGNbCOMMAbHYPHEN-MINUSbFULL STOPbSOLIDUSbDIGIT ZEROcONEcTWOcTHREEcFOURcFIVEcSIXcSEVEN",
  "cEIGHTcNINEbCOLONbSEMICOLONbLESS-THAN SIGNbEQUALS SIGNbGREATER-THAN SIGNbQUESTION MARK",
  "bCOMMERCIAL ATbLATIN CAPITAL LETTER AeBeCeDeEeFeGeHeIeJeKeLeMeNeOePeQeReSeTeUeVeWeXeYeZ",
  "bLEFT SQUARE BRACKETbREVERSE SOLIDUSbRIGHT SQUARE BRACKETbCIRCUMFLEX ACCENTbLOW LINE",
  "bGRAVE ACCENTbLATIN SMALL LETTER AeBeCeDeEeFeGeHeIeJeKeLeMeNeOePeQeReSeTeUeVeWeXeYeZ",
  "bLEFT CURLY BRACKETbVERTICAL LINEbRIGHT CURLY BRACKETbTILDEaCANCEL TAG/E0100",
  "aVARIATION SELECTOR-17bSELECTOR-18bSELECTOR-19bSELECTOR-20bSELECTOR-21bSELECTOR-22bSELECTOR-23",
  "bSELECTOR-24bSELECTOR-25bSELECTOR-26bSELECTOR-27bSELECTOR-28bSELECTOR-29bSELECTOR-30",
  "bSELECTOR-31bSELECTOR-32bSELECTOR-33bSELECTOR-34bSELECTOR-35bSELECTOR-36bSELECTOR-37",
  "bSELECTOR-38bSELECTOR-39bSELECTOR-40bSELECTOR-41bSELECTOR-42bSELECTOR-43bSELECTOR-44",
  "bSELECTOR-45bSELECTOR-46bSELECTOR-47bSELECTOR-48bSELECTOR-49bSELECTOR-50bSELECTOR-51",
  "bSELECTOR-52bSELECTOR-53bSELECTOR-54bSELECTOR-55bSELECTOR-56bSELECTOR-57bSELECTOR-58",
  "bSELECTOR-59bSELECTOR-60bSELECTOR-61bSELECTOR-62bSELECTOR-63bSELECTOR-64bSELECTOR-65",
  "bSELECTOR-66bSELECTOR-67bSELECTOR-68bSELECTOR-69bSELECTOR-70bSELECTOR-71bSELECTOR-72",
  "bSELECTOR-73bSELECTOR-74bSELECTOR-75bSELECTOR-76bSELECTOR-77bSELECTOR-78bSELECTOR-79",
  "bSELECTOR-80bSELECTOR-81bSELECTOR-82bSELECTOR-83bSELECTOR-84bSELECTOR-85bSELECTOR-86",
  "bSELECTOR-87bSELECTOR-88bSELECTOR-89bSELECTOR-90bSELECTOR-91bSELECTOR-92bSELECTOR-93",
  "bSELECTOR-94bSELECTOR-95bSELECTOR-96bSELECTOR-97bSELECTOR-98bSELECTOR-99bSELECTOR-100",
  "bSELECTOR-101bSELECTOR-102bSELECTOR-103bSELECTOR-104bSELECTOR-105bSELECTOR-106bSELECTOR-107",
  "bSELECTOR-108bSELECTOR-109bSELECTOR-110bSELECTOR-111bSELECTOR-112bSELECTOR-113bSELECTOR-114",
  "bSELECTOR-115bSELECTOR-116bSELECTOR-117bSELECTOR-118bSELECTOR-119bSELECTOR-120bSELECTOR-121",
  "bSELECTOR-122bSELECTOR-123bSELECTOR-124bSELECTOR-125bSELECTOR-126bSELECTOR-127bSELECTOR-128",
  "bSELECTOR-129bSELECTOR-130bSELECTOR-131bSELECTOR-132bSELECTOR-133bSELECTOR-134bSELECTOR-135",
  "bSELECTOR-136bSELECTOR-137bSELECTOR-138bSELECTOR-139bSELECTOR-140bSELECTOR-141bSELECTOR-142",
  "bSELECTOR-143bSELECTOR-144bSELECTOR-145bSELECTOR-146bSELECTOR-147bSELECTOR-148bSELECTOR-149",
  "bSELECTOR-150bSELECTOR-151bSELECTOR-152bSELECTOR-153bSELECTOR-154bSELECTOR-155bSELECTOR-156",
  "bSELECTOR-157bSELECTOR-158bSELECTOR-159bSELECTOR-160bSELECTOR-161bSELECTOR-162bSELECTOR-163",
  "bSELECTOR-164bSELECTOR-165bSELECTOR-166bSELECTOR-167bSELECTOR-168bSELECTOR-169bSELECTOR-170",
  "bSELECTOR-171bSELECTOR-172bSELECTOR-173bSELECTOR-174bSELECTOR-175bSELECTOR-176bSELECTOR-177",
  "bSELECTOR-178bSELECTOR-179bSELECTOR-180bSELECTOR-181bSELECTOR-182bSELECTOR-183bSELECTOR-184",
  "bSELECTOR-185bSELECTOR-186bSELECTOR-187bSELECTOR-188bSELECTOR-189bSELECTOR-190bSELECTOR-191",
  "bSELECTOR-192bSELECTOR-193bSELECTOR-194bSELECTOR-195bSELECTOR-196bSELECTOR-197bSELECTOR-198",
  "bSELECTOR-199bSELECTOR-200bSELECTOR-201bSELECTOR-202bSELECTOR-203bSELECTOR-204bSELECTOR-205",
  "bSELECTOR-206bSELECTOR-207bSELECTOR-208bSELECTOR-209bSELECTOR-210bSELECTOR-211bSELECTOR-212",
  "bSELECTOR-213bSELECTOR-214bSELECTOR-215bSELECTOR-216bSELECTOR-217bSELECTOR-218bSELECTOR-219",
  "bSELECTOR-220bSELECTOR-221bSELECTOR-222bSELECTOR-223bSELECTOR-224bSELECTOR-225bSELECTOR-226",
  "bSELECTOR-227bSELECTOR-228bSELECTOR-229bSELECTOR-230bSELECTOR-231bSELECTOR-232bSELECTOR-233",
  "bSELECTOR-234bSELECTOR-235bSELECTOR-236bSELECTOR-237bSELECTOR-238bSELECTOR-239bSELECTOR-240",
  "bSELECTOR-241bSELECTOR-242bSELECTOR-243bSELECTOR-244bSELECTOR-245bSELECTOR-246bSELECTOR-247",
  "bSELECTOR-248bSELECTOR-249bSELECTOR-250bSELECTOR-251bSELECTOR-252bSELECTOR-253bSELECTOR-254",
  "bSELECTOR-255bSELECTOR-256"]

end LexPattern.Name.Table
