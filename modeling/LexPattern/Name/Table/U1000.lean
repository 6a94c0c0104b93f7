namespace LexPattern.Name.Table

def fromU1000 : List String := [
  "/1000aMYANMAR LETTER KAcKHAcGAcGHAcNGAcCAcCHAcJAcJHAcNYAcNNYAcTTAcTTHAcDDAcDDHAcNNAcTAcTHAcDA",
  "cDHAcNAcPAcPHAcBAcBHAcMAcYAcRAcLAcWAcSAcHAcLLAcAcSHAN AcIcIIcUcUUcEcMON EcOcAU",
  "bVOWEL SIGN TALL AAdAAdIdIIdUdUUdEdAIdMON IIeOdE ABOVEbSIGN ANUSVARAcDOT BELOWcVISARGAcVIRAMA",
  "cASATbCONSONANT SIGN MEDIAL YAeRAeWAeHAbLETTER GREAT SAbDIGIT ZEROcONEcTWOcTHREEcFOURcFIVEcSIX",
  "cSEVENcEIGHTcNINEbSIGN LITTLE SECTIONcSECTIONbSYMBOL LOCATIVEcCOMPLETEDcAFOREMENTIONED",
  "cGENITIVEbLETTER SHAcSSAcVOCALIC RdRRdLdLLbVOWEL SIGN VOCALIC ReRReLeLLbLETTER MON NGAdJHAdBBA",
  "dBBEbCONSONANT SIGN MON MEDIAL NAfMAfLAbLETTER SGAW KAREN SHAbVOWEL SIGN SGAW KAREN EU",
  "bTONE MARK SGAW KAREN HATHIfKE PHObLETTER WESTERN PWO KAREN THAfPWA",
  "bVOWEL SIGN WESTERN PWO KAREN EUgUEbSIGN WESTERN PWO KAREN TONE-1fTONE-2fTONE-3fTONE-4fTONE-5",
  "bLETTER EASTERN PWO KAREN NNAfYWAfGHWAbVOWEL SIGN GEBA KAREN IdKAYAH OEeUeEEbLETTER SHAN KA",
  "dKHAdGAdCAdZAdNYAdDAdNAdPHAdFAdBAdTHAdHAbCONSONANT SIGN SHAN MEDIAL WAbVOWEL SIGN SHAN AAeE",
  "fABOVEeFINAL YbSIGN SHAN TONE-2dTONE-3dTONE-5dTONE-6dCOUNCIL TONE-2eTONE-3eEMPHATIC TONE",
  "bLETTER RUMAI PALAUNG FAbSIGN RUMAI PALAUNG TONE-5bSHAN DIGIT ZEROdONEdTWOdTHREEdFOURdFIVEdSIX",
  "dSEVENdEIGHTdNINEbSIGN KHAMTI TONE-1dTONE-3bVOWEL SIGN AITON AeAIbSYMBOL SHAN ONEdEXCLAMATION",
  "aGEORGIAN CAPITAL LETTER ANdBANdGANdDONdENdVINdZENdTANdINdKANdLASdMANdNARdONdPARdZHARdRAEdSAN",
  "dTARdUNdPHARdKHARdGHANdQARdSHINdCHINdCANdJILdCILdCHARdXANdJHANdHAEdHEdHIEdWEdHARdHOE/10C7dYN",
  "/10CDdAEN/10D0bLETTER ANcBANcGANcDONcENcVINcZENcTANcINcKANcLAScMANcNARcONcPARcZHARcRAEcSANcTAR",
  "cUNcPHARcKHARcGHANcQARcSHINcCHINcCANcJILcCILcCHARcXANcJHANcHAEcHEcHIEcWEcHARcHOEcFIcYNcELIFI",
  "cTURNED GANcAINbPARAGRAPH SEPARATORaMODIFIER LETTER GEORGIAN NARaGEORGIAN LETTER AENcHARD SIGN",
  "cLABIAL SIGNaHANGUL CHOSEONG KIYEOKcSSANGKIYEOKcNIEUNcTIKEUTcSSANGTIKEUTcRIEULcMIEUMcPIEUP",
  "cSSANGPIEUPcSIOScSSANGSIOScIEUNGcCIEUCcSSANGCIEUCcCHIEUCHcKHIEUKHcTHIEUTHcPHIEUPHcHIEUH",
  "cNIEUN-KIYEOKcSSANGNIEUNcNIEUN-TIKEUTcNIEUN-PIEUPcTIKEUT-KIYEOKcRIEUL-NIEUNcSSANGRIEUL",
  "cRIEUL-HIEUHcKAPYEOUNRIEULcMIEUM-PIEUPcKAPYEOUNMIEUMcPIEUP-KIYEOKcPIEUP-NIEUNcPIEUP-TIKEUT",
  "cPIEUP-SIOScPIEUP-SIOS-KIYEOKcPIEUP-SIOS-TIKEUTcPIEUP-SIOS-PIEUPcPIEUP-SSANGSIOS",
  "cPIEUP-SIOS-CIEUCcPIEUP-CIEUCcPIEUP-CHIEUCHcPIEUP-THIEUTHcPIEUP-PHIEUPHcKAPYEOUNPIEUP",
  "cKAPYEOUNSSANGPIEUPcSIOS-KIYEOKcSIOS-NIEUNcSIOS-TIKEUTcSIOS-RIEULcSIOS-MIEUMcSIOS-PIEUP",
  "cSIOS-PIEUP-KIYEOKcSIOS-SSANGSIOScSIOS-IEUNGcSIOS-CIEUCcSIOS-CHIEUCHcSIOS-KHIEUKHcSIOS-THIEUTH",
  "cSIOS-PHIEUPHcSIOS-HIEUHcCHITUEUMSIOScCHITUEUMSSANGSIOScCEONGCHIEUMSIOScCEONGCHIEUMSSANGSIOS",
  "cPANSIOScIEUNG-KIYEOKcIEUNG-TIKEUTcIEUNG-MIEUMcIEUNG-PIEUPcIEUNG-SIOScIEUNG-PANSIOScSSANGIEUNG",
  "cIEUNG-CIEUCcIEUNG-CHIEUCHcIEUNG-THIEUTHcIEUNG-PHIEUPHcYESIEUNGcCIEUC-IEUNGcCHITUEUMCIEUC",
  "cCHITUEUMSSANGCIEUCcCEONGCHIEUMCIEUCcCEONGCHIEUMSSANGCIEUCcCHIEUCH-KHIEUKHcCHIEUCH-HIEUH",
  "cCHITUEUMCHIEUCHcCEONGCHIEUMCHIEUCHcPHIEUPH-PIEUPcKAPYEOUNPHIEUPHcSSANGHIEUHcYEORINHIEUH",
  "cKIYEOK-TIKEUTcNIEUN-SIOScNIEUN-CIEUCcNIEUN-HIEUHcTIKEUT-RIEULcFILLERbJUNGSEONG FILLERcAcAEcYA",
  "cYAEcEOcEcYEOcYEcOcWAcWAEcOEcYOcUcWEOcWEcWIcYUcEUcYIcIcA-OcA-UcYA-OcYA-YOcEO-OcEO-UcEO-EU",
  "cYEO-OcYEO-UcO-EOcO-EcO-YEcO-OcO-UcYO-YAcYO-YAEcYO-YEOcYO-OcYO-IcU-AcU-AEcU-EO-EUcU-YEcU-U",
  "cYU-AcYU-EOcYU-EcYU-YEOcYU-YEcYU-UcYU-IcEU-UcEU-EUcYI-UcI-AcI-YAcI-OcI-UcI-EUcI-ARAEAcARAEA",
  "cARAEA-EOcARAEA-UcARAEA-IcSSANGARAEAcA-EUcYA-UcYEO-YAcO-YAcO-YAEbJONGSEONG KIYEOKcSSANGKIYEOK",
  "cKIYEOK-SIOScNIEUNcNIEUN-CIEUCcNIEUN-HIEUHcTIKEUTcRIEULcRIEUL-KIYEOKcRIEUL-MIEUMcRIEUL-PIEUP",
  "cRIEUL-SIOScRIEUL-THIEUTHcRIEUL-PHIEUPHcRIEUL-HIEUHcMIEUMcPIEUPcPIEUP-SIOScSIOScSSANGSIOS",
  "cIEUNGcCIEUCcCHIEUCHcKHIEUKHcTHIEUTHcPHIEUPHcHIEUHcKIYEOK-RIEULcKIYEOK-SIOS-KIYEOK",
  "cNIEUN-KIYEOKcNIEUN-TIKEUTcNIEUN-SIOScNIEUN-PANSIOScNIEUN-THIEUTHcTIKEUT-KIYEOKcTIKEUT-RIEUL",
  "cRIEUL-KIYEOK-SIOScRIEUL-NIEUNcRIEUL-TIKEUTcRIEUL-TIKEUT-HIEUHcSSANGRIEULcRIEUL-MIEUM-KIYEOK",
  "cRIEUL-MIEUM-SIOScRIEUL-PIEUP-SIOScRIEUL-PIEUP-HIEUHcRIEUL-KAPYEOUNPIEUPcRIEUL-SSANGSIOS",
  "cRIEUL-PANSIOScRIEUL-KHIEUKHcRIEUL-YEORINHIEUHcMIEUM-KIYEOKcMIEUM-RIEULcMIEUM-PIEUPcMIEUM-SIOS",
  "cMIEUM-SSANGSIOScMIEUM-PANSIOScMIEUM-CHIEUCHcMIEUM-HIEUHcKAPYEOUNMIEUMcPIEUP-RIEUL",
  "cPIEUP-PHIEUPHcPIEUP-HIEUHcKAPYEOUNPIEUPcSIOS-KIYEOKcSIOS-TIKEUTcSIOS-RIEULcSIOS-PIEUPcPANSIOS",
  "cIEUNG-KIYEOKcIEUNG-SSANGKIYEOKcSSANGIEUNGcIEUNG-KHIEUKHcYESIEUNGcYESIEUNG-SIOS",
  "cYESIEUNG-PANSIOScPHIEUPH-PIEUPcKAPYEOUNPHIEUPHcHIEUH-NIEUNcHIEUH-RIEULcHIEUH-MIEUM",
  "cHIEUH-PIEUPcYEORINHIEUHcKIYEOK-NIEUNcKIYEOK-PIEUPcKIYEOK-CHIEUCHcKIYEOK-KHIEUKHcKIYEOK-HIEUH",
  "cSSANGNIEUNaETHIOPIC SYLLABLE HAcHUcHIcHAAcHEEcHEcHOcHOAcLAcLUcLIcLAAcLEEcLEcLOcLWAcHHAcHHU",
  "cHHIcHHAAcHHEEcHHEcHHOcHHWAcMAcMUcMIcMAAcMEEcMEcMOcMWAcSZAcSZUcSZIcSZAAcSZEEcSZEcSZOcSZWAcRA",
  "cRUcRIcRAAcREEcREcROcRWAcSAcSUcSIcSAAcSEEcSEcSOcSWAcSHAcSHUcSHIcSHAAcSHEEcSHEcSHOcSHWAcQAcQU",
  "cQIcQAAcQEEcQEcQOcQOAcQWA/124AcQWIcQWAAcQWEEcQWE/1250cQHAcQHUcQHIcQHAAcQHEEcQHEcQHO/1258cQHWA",
  "/125AcQHWIcQHWAAcQHWEEcQHWE/1260cBAcBUcBIcBAAcBEEcBEcBOcBWAcVAcVUcVIcVAAcVEEcVEcVOcVWAcTAcTU",
  "cTIcTAAcTEEcTEcTOcTWAcCAcCUcCIcCAAcCEEcCEcCOcCWAcXAcXUcXIcXAAcXEEcXEcXOcXOAcXWA/128AcXWIcXWAA",
  "cXWEEcXWE/1290cNAcNUcNIcNAAcNEEcNEcNOcNWAcNYAcNYUcNYIcNYAAcNYEEcNYEcNYOcNYWAcGLOTTAL AdUdIdAA",
  "dEEdEdOdWAcKAcKUcKIcKAAcKEEcKEcKOcKOAcKWA/12B2cKWIcKWAAcKWEEcKWE/12B8cKXAcKXUcKXIcKXAAcKXEE",
  "cKXEcKXO/12C0cKXWA/12C2cKXWIcKXWAAcKXWEEcKXWE/12C8cWAcWUcWIcWAAcWEEcWEcWOcWOAcPHARYNGEAL AdUdI",
  "dAAdEEdEdO/12D8cZAcZUcZIcZAAcZEEcZEcZOcZWAcZHAcZHUcZHIcZHAAcZHEEcZHEcZHOcZHWAcYAcYUcYIcYAAcYEE",
  "cYEcYOcYOAcDAcDUcDIcDAAcDEEcDEcDOcDWAcDDAcDDUcDDIcDDAAcDDEEcDDEcDDOcDDWAcJAcJUcJIcJAAcJEEcJE",
  "cJOcJWAcGAcGUcGIcGAAcGEEcGEcGOcGOAcGWA/1312cGWIcGWAAcGWEEcGWE/1318cGGAcGGUcGGIcGGAAcGGEEcGGE",
  "cGGOcGGWAAcTHAcTHUcTHIcTHAAcTHEEcTHEcTHOcTHWAcCHAcCHUcCHIcCHAAcCHEEcCHEcCHOcCHWAcPHAcPHUcPHI",
  "cPHAAcPHEEcPHEcPHOcPHWAcTSAcTSUcTSIcTSAAcTSEEcTSEcTSOcTSWAcTZAcTZUcTZIcTZAAcTZEEcTZEcTZOcTZOA",
  "cFAcFUcFIcFAAcFEEcFEcFOcFWAcPAcPUcPIcPAAcPEEcPEcPOcPWAcRYAcMYAcFYA/135D",
  "bCOMBINING GEMINATION AND VOWEL LENGTH MARKcVOWEL LENGTH MARKcGEMINATION MARKbSECTION MARK",
  "bWORDSPACEbFULL STOPbCOMMAbSEMICOLONbCOLONbPREFACE COLONbQUESTION MARKbPARAGRAPH SEPARATOR",
  "bDIGIT ONEcTWOcTHREEcFOURcFIVEcSIXcSEVENcEIGHTcNINEbNUMBER TENcTWENTYcTHIRTYcFORTYcFIFTYcSIXTY",
  "cSEVENTYcEIGHTYcNINETYcHUNDREDcTEN THOUSAND/1380bSYLLABLE SEBATBEIT MWAcMWIcMWEEcMWE",
  "cSEBATBEIT BWAcBWIcBWEEcBWEcSEBATBEIT FWAcFWIcFWEEcFWEcSEBATBEIT PWAcPWIcPWEEcPWE",
  "bTONAL MARK YIZETdDERETdRIKRIKdSHORT RIKRIKdDIFATdKENATdCHIRETdHIDETdDERET-HIDETdKURT/13A0",
  "aCHEROKEE LETTER AcEcIcOcUcVcGAcKAcGEcGIcGOcGUcGVcHAcHEcHIcHOcHUcHVcLAcLEcLIcLOcLUcLVcMAcMEcMI",
  "cMOcMUcNAcHNAcNAHcNEcNIcNOcNUcNVcQUAcQUEcQUIcQUOcQUUcQUVcSAcScSEcSIcSOcSUcSVcDAcTAcDEcTEcDIcTI",
  "cDOcDUcDVcDLAcTLAcTLEcTLIcTLOcTLUcTLVcTSAcTSEcTSIcTSOcTSUcTSVcWAcWEcWIcWOcWUcWVcYAcYEcYIcYOcYU",
  "cYVcMV/13F8bSMALL LETTER YEdYIdYOdYUdYVdMV/1400aCANADIAN SYLLABICS HYPHENcEcAAIcIcIIcOcOO",
  "cY-CREE OOcCARRIER EEdIcAcAAcWEcWEST-CREE WEcWIcWEST-CREE WIcWIIcWEST-CREE WIIcWOcWEST-CREE WO",
  "cWOOcWEST-CREE WOOcNASKAPI WOOcWAcWEST-CREE WAcWAAcWEST-CREE WAAcNASKAPI WAAcAIcY-CREE W",
  "cGLOTTAL STOPcFINAL ACUTEdGRAVEdBOTTOM HALF RINGdTOP HALF RINGdRIGHT HALF RINGdRING",
  "dDOUBLE ACUTEeSHORT VERTICAL STROKESdMIDDLE DOTdSHORT HORIZONTAL STROKEdPLUSdDOWN TACKcENcIN",
  "cONcANcPEcPAAIcPIcPIIcPOcPOOcY-CREE POOcCARRIER HEEdHIcPAcPAAcPWEcWEST-CREE PWEcPWI",
  "cWEST-CREE PWIcPWIIcWEST-CREE PWIIcPWOcWEST-CREE PWOcPWOOcWEST-CREE PWOOcPWAcWEST-CREE PWA",
  "cPWAAcWEST-CREE PWAAcY-CREE PWAAcPcWEST-CREE PcCARRIER HcTEcTAAIcTIcTIIcTOcTOOcY-CREE TOO",
  "cCARRIER DEEdDIcTAcTAAcTWEcWEST-CREE TWEcTWIcWEST-CREE TWIcTWIIcWEST-CREE TWIIcTWO",
  "cWEST-CREE TWOcTWOOcWEST-CREE TWOOcTWAcWEST-CREE TWAcTWAAcWEST-CREE TWAAcNASKAPI TWAAcTcTTE",
  "cTTIcTTOcTTAcKEcKAAIcKIcKIIcKOcKOOcY-CREE KOOcKAcKAAcKWEcWEST-CREE KWEcKWIcWEST-CREE KWIcKWII",
  "cWEST-CREE KWIIcKWOcWEST-CREE KWOcKWOOcWEST-CREE KWOOcKWAcWEST-CREE KWAcKWAAcWEST-CREE KWAA",
  "cNASKAPI KWAAcKcKWcSOUTH-SLAVEY KEHdKIHdKOHdKAHcCEcCAAIcCIcCIIcCOcCOOcY-CREE COOcCAcCAAcCWE",
  "cWEST-CREE CWEcCWIcWEST-CREE CWIcCWIIcWEST-CREE CWIIcCWOcWEST-CREE CWOcCWOOcWEST-CREE CWOOcCWA",
  "cWEST-CREE CWAcCWAAcWEST-CREE CWAAcNASKAPI CWAAcCcSAYISI THcMEcMAAIcMIcMIIcMOcMOOcY-CREE MOO",
  "cMAcMAAcMWEcWEST-CREE MWEcMWIcWEST-CREE MWIcMWIIcWEST-CREE MWIIcMWOcWEST-CREE MWOcMWOO",
  "cWEST-CREE MWOOcMWAcWEST-CREE MWAcMWAAcWEST-CREE MWAAcNASKAPI MWAAcMcWEST-CREE McMH",
  "cATHAPASCAN McSAYISI McNEcNAAIcNIcNIIcNOcNOOcY-CREE NOOcNAcNAAcNWEcWEST-CREE NWEcNWA",
  "cWEST-CREE NWAcNWAAcWEST-CREE NWAAcNASKAPI NWAAcNcCARRIER NGcNHcLEcLAAIcLIcLIIcLOcLOO",
  "cY-CREE LOOcLAcLAAcLWEcWEST-CREE LWEcLWIcWEST-CREE LWIcLWIIcWEST-CREE LWIIcLWOcWEST-CREE LWO",
  "cLWOOcWEST-CREE LWOOcLWAcWEST-CREE LWAcLWAAcWEST-CREE LWAAcLcWEST-CREE LcMEDIAL LcSEcSAAIcSI",
  "cSIIcSOcSOOcY-CREE SOOcSAcSAAcSWEcWEST-CREE SWEcSWIcWEST-CREE SWIcSWIIcWEST-CREE SWIIcSWO",
  "cWEST-CREE SWOcSWOOcWEST-CREE SWOOcSWAcWEST-CREE SWAcSWAAcWEST-CREE SWAAcNASKAPI SWAAcS",
  "cATHAPASCAN ScSWcBLACKFOOT ScMOOSE-CREE SKcNASKAPI SKWdS-WdSPWAdSTWAdSKWAdSCWAcSHEcSHIcSHII",
  "cSHOcSHOOcSHAcSHAAcSHWEcWEST-CREE SHWEcSHWIcWEST-CREE SHWIcSHWIIcWEST-CREE SHWIIcSHWO",
  "cWEST-CREE SHWOcSHWOOcWEST-CREE SHWOOcSHWAcWEST-CREE SHWAcSHWAAcWEST-CREE SHWAAcSHcYEcYAAIcYI",
  "cYIIcYOcYOOcY-CREE YOOcYAcYAAcYWEcWEST-CREE YWEcYWIcWEST-CREE YWIcYWIIcWEST-CREE YWIIcYWO",
  "cWEST-CREE YWOcYWOOcWEST-CREE YWOOcYWAcWEST-CREE YWAcYWAAcWEST-CREE YWAAcNASKAPI YWAAcY",
  "cBIBLE-CREE YcWEST-CREE YcSAYISI YIcREcR-CREE REcWEST-CREE LEcRAAIcRIcRIIcROcROOcWEST-CREE LO",
  "cRAcRAAcWEST-CREE LAcRWAAcWEST-CREE RWAAcRcWEST-CREE RcMEDIAL RcFEcFAAIcFIcFIIcFOcFOOcFAcFAA",
  "cFWAAcWEST-CREE FWAAcFcTHEcN-CREE THEcTHIcN-CREE THIcTHIIcN-CREE THIIcTHOcTHOOcTHAcTHAAcTHWAA",
  "cWEST-CREE THWAAcTHcTTHEcTTHIcTTHOcTTHAcTTHcTYEcTYIcTYOcTYAcNUNAVIK HEdHIdHIIdHOdHOOdHAdHAAdH",
  "cNUNAVUT HcHKcQAAIcQIcQIIcQOcQOOcQAcQAAcQcTLHEcTLHIcTLHOcTLHAcWEST-CREE REdRIdROdRAcNGAAIcNGI",
  "cNGIIcNGOcNGOOcNGAcNGAAcNGcNNGcSAYISI SHEdSHIdSHOdSHAcWOODS-CREE THEdTHIdTHOdTHAdTHcLHIcLHII",
  "cLHOcLHOOcLHAcLHAAcLHcTH-CREE THEdTHIdTHIIdTHOdTHOOdTHAdTHAAdTHcAIVILIK BcBLACKFOOT EdIdOdAdWE",
  "dWIdWOdWAdNEdNIdNOdNAdKEdKIdKOdKAcSAYISI HEdHIdHOdHAcCARRIER GHUdGHOdGHEdGHEEdGHIdGHAdRUdROdRE",
  "dREEdRIdRAdWUdWOdWEdWEEdWIdWAdHWUdHWOdHWEdHWEEdHWIdHWAdTHUdTHOdTHEdTHEEdTHIdTHAdTTUdTTOdTTE",
  "dTTEEdTTIdTTAdPUdPOdPEdPEEdPIdPAdPdGUdGOdGEdGEEdGIdGAdKHUdKHOdKHEdKHEEdKHIdKHAdKKUdKKOdKKE",
  "dKKEEdKKIdKKAdKKdNUdNOdNEdNEEdNIdNAdMUdMOdMEdMEEdMIdMAdYUdYOdYEdYEEdYIdYAdJUcSAYISI JU",
  "cCARRIER JOdJEdJEEdJIcSAYISI JIcCARRIER JAdJJUdJJOdJJEdJJEEdJJIdJJAdLUdLOdLEdLEEdLIdLAdDLUdDLO",
  "dDLEdDLEEdDLIdDLAdLHUdLHOdLHEdLHEEdLHIdLHAdTLHUdTLHOdTLHEdTLHEEdTLHIdTLHAdTLUdTLOdTLEdTLEEdTLI",
  "dTLAdZUdZOdZEdZEEdZIdZAdZdINITIAL ZdDZUdDZOdDZEdDZEEdDZIdDZAdSUdSOdSEdSEEdSIdSAdSHUdSHOdSHE",
  "dSHEEdSHIdSHAdSHdTSUdTSOdTSEdTSEEdTSIdTSAdCHUdCHOdCHEdCHEEdCHIdCHAdTTSUdTTSOdTTSEdTTSEEdTTSI",
  "dTTSAcCHI SIGNcFULL STOPcQAIcNGAIcNNGIcNNGIIcNNGOcNNGOOcNNGAcNNGAAcWOODS-CREE THWEEdTHWIdTHWII",
  "dTHWOdTHWOOdTHWAdTHWAAdFINAL THcBLACKFOOT WaOGHAM SPACE MARKbLETTER BEITHcLUIScFEARNcSAILcNION",
  "cUATHcDAIRcTINNEcCOLLcCEIRTcMUINcGORTcNGEADALcSTRAIFcRUIScAILMcONNcURcEADHADHcIODHADHcEABHADH",
  "cORcUILLEANNcIFINcEAMHANCHOLLcPEITHbFEATHER MARKbREVERSED FEATHER MARK/16A0",
  "aRUNIC LETTER FEHU FEOH FE FcVcURUZ UR UcYRcYcWcTHURISAZ THURS THORNcETHcANSUZ AcOS OcAC A",
  "cAESCcLONG-BRANCH-OSS OcSHORT-TWIG-OSS OcOcOEcONcRAIDO RAD REID RcKAUNAcCENcKAUN KcGcENG",
  "cGEBO GYFU GcGARcWUNJO WYNN WcHAGLAZ HcHAEGL HcLONG-BRANCH-HAGALL HcSHORT-TWIG-HAGALL H",
  "cNAUDIZ NYD NAUD NcSHORT-TWIG-NAUD NcDOTTED-NcISAZ IS ISS IcEcJERAN JcGERcLONG-BRANCH-AR AE",
  "cSHORT-TWIG-AR AcIWAZ EOHcPERTHO PEORTH PcALGIZ EOLHXcSOWILO ScSIGEL LONG-BRANCH-SOL S",
  "cSHORT-TWIG-SOL ScCcZcTIWAZ TIR TYR TcSHORT-TWIG-TYR TcDcBERKANAN BEORC BJARKAN B",
  "cSHORT-TWIG-BJARKAN BcDOTTED-PcOPEN-PcEHWAZ EH EcMANNAZ MAN McLONG-BRANCH-MADR M",
  "cSHORT-TWIG-MADR McLAUKAZ LAGU LOGR LcDOTTED-LcINGWAZcINGcDAGAZ DAEG DcOTHALAN ETHEL OcEARcIOR",
  "cCWEORTHcCALCcCEALCcSTANcLONG-BRANCH-YRcSHORT-TWIG-YRcICELANDIC-YRcQcXbSINGLE PUNCTUATION",
  "bMULTIPLE PUNCTUATIONbCROSS PUNCTUATIONbARLAUG SYMBOLbTVIMADUR SYMBOLbBELGTHOR SYMBOLbLETTER K",
  "cSHcOOcFRANKS CASKET OSeISeEHeACeAESC/1700aTAGALOG LETTER AcIcUcKAcGAcNGAcTAcDAcNAcPAcBAcMAcYA",
  "cRAcLAcWAcSAcHAbVOWEL SIGN IdUbSIGN VIRAMAcPAMUDPOD/171FbLETTER ARCHAIC RAaHANUNOO LETTER AcI",
  "cUcKAcGAcNGAcTAcDAcNAcPAcBAcMAcYAcRAcLAcWAcSAcHAbVOWEL SIGN IdUbSIGN PAMUDPOD",
  "aPHILIPPINE SINGLE PUNCTUATIONbDOUBLE PUNCTUATION/1740aBUHID LETTER AcIcUcKAcGAcNGAcTAcDAcNA",
  "cPAcBAcMAcYAcRAcLAcWAcSAcHAbVOWEL SIGN IdU/1760aTAGBANWA LETTER AcIcUcKAcGAcNGAcTAcDAcNAcPAcBA",
  "cMAcYA/176EcLAcWAcSA/1772bVOWEL SIGN IdU/1780aKHMER LETTER KAcKHAcKOcKHOcNGOcCAcCHAcCOcCHOcNYO",
  "cDAcTTHAcDOcTTHOcNNOcTAcTHAcTOcTHOcNOcBAcPHAcPOcPHOcMOcYOcROcLOcVOcSHAcSSOcSAcHAcLAcQA",
  "bINDEPENDENT VOWEL QAQdQAAdQIdQIIdQUdQUKdQUUdQUUVdRYdRYYdLYdLYYdQEdQAIdQOO TYPE ONEfTWOdQAU",
  "bVOWEL INHERENT AQdAAcSIGN AAdIdIIdYdYYdUdUUdUAdOEdYAdIEdEdAEdAIdOOdAUbSIGN NIKAHITcREAHMUK",
  "cYUUKALEAPINTUcMUUSIKATOANcTRIISAPcBANTOCcROBATcTOANDAKHIATcKAKABATcAHSDAcSAMYOK SANNYAcVIRIAM",
  "cCOENGcBATHAMASATcKHANcBARIYOOSANcCAMNUC PII KUUHcLEK TOOcBEYYALcPHNAEK MUANcKOOMUUT",
  "bCURRENCY SYMBOL RIELbSIGN AVAKRAHASANYAcATTHACAN/17E0bDIGIT ZEROcONEcTWOcTHREEcFOURcFIVEcSIX",
  "cSEVENcEIGHTcNINE/17F0bSYMBOL LEK ATTAK SONeMUOYePIIeBEIeBUONePRAMePRAM-MUOYePRAM-PIIePRAM-BEI",
  "ePRAM-BUON/1800aMONGOLIAN BIRGAbELLIPSISbCOMMAbFULL STOPbCOLONbFOUR DOTSbTODO SOFT HYPHEN",
  "bSIBE SYLLABLE BOUNDARY MARKERbMANCHU COMMAcFULL STOPbNIRUGUbFREE VARIATION SELECTOR ONEeTWO",
  "eTHREEbVOWEL SEPARATORbFREE VARIATION SELECTOR FOURbDIGIT ZEROcONEcTWOcTHREEcFOURcFIVEcSIX",
  "cSEVENcEIGHTcNINE/1820bLETTER AcEcIcOcUcOEcUEcEEcNAcANGcBAcPAcQAcGAcMAcLAcSAcSHAcTAcDAcCHAcJA",
  "cYAcRAcWAcFAcKAcKHAcTSAcZAcHAAcZRAcLHAcZHIcCHIcTODO LONG VOWEL SIGNdEdIdOdUdOEdUEdANGdBAdPAdQA",
  "dGAdMAdTAdDAdCHAdJAdTSAdYAdWAdKAdGAAdHAAdJIAdNIAdDZAcSIBE EdIdIYdUEdUdANGdKAdGAdHAdPAdSHAdTA",
  "dDAdJAdFAdGAAdHAAdTSAdZAdRAAdCHAdZHAcMANCHU IdKAdRAdFAdZHAcCHA WITH TWO DOTS/1880",
  "cALI GALI ANUSVARA ONEeVISARGA ONEeDAMARUeUBADAMAeINVERTED UBADAMAeBALUDAeTHREE BALUDAeAeIeKA",
  "eNGAeCAeTTAeTTHAeDDAeNNAeTAeDAePAePHAeSSAeZHAeZAeAHcTODO ALI GALI TAfZHAcMANCHU ALI GALI GHA",
  "fNGAfCAfJHAfTTAfDDHAfTAfDHAfSSAfCYAfZHAfZAcALI GALI HALF UfYAcMANCHU ALI GALI BHA",
  "cALI GALI DAGALGAcMANCHU ALI GALI LHA/18B0aCANADIAN SYLLABICS OYcAYcAAYcWAYcPOYcPAYcPWOYcTAY",
  "cKAYcKWAYcMAYcNOYcNAYcLAYcSOYcSAYcSHOYcSHAYcSHWOYcYOYcYAYcRAYcNWIcOJIBWAY NWIcNWII",
  "cOJIBWAY NWIIcNWOcOJIBWAY NWOcNWOOcOJIBWAY NWOOcRWEEcRWIcRWIIcRWOcRWOOcRWAcOJIBWAY PdTdKdCdMdN",
  "dSdSHcEASTERN WcWESTERN WcFINAL SMALL RINGdRAISED DOTcR-CREE RWEcWEST-CREE LOOdLAAcTHWEcTHWA",
  "cTTHWEcTTHOOcTTHAAcTLHWEcTLHOOcSAYISI SHWEdSHOOdHOOcCARRIER GWUdDENE GEEdGAAdGWAcSAYISI JUU",
  "cCARRIER JWAcBEAVER DENE LeRcCARRIER DENTAL S/1900aLIMBU VOWEL-CARRIER LETTERbLETTER KAcKHAcGA",
  "cGHAcNGAcCAcCHAcJAcJHAcYANcTAcTHAcDAcDHAcNAcPAcPHAcBAcBHAcMAcYAcRAcLAcWAcSHAcSSAcSAcHAcGYAN",
  "cTRA/1920bVOWEL SIGN AdIdUdEEdAIdOOdAUdEdObSUBJOINED LETTER YAdRAdWA/1930bSMALL LETTER KAdNGA",
  "dANUSVARAdTAdNAdPAdMAdRAdLAbSIGN MUKPHRENGcKEMPHRENGcSA-I/1940cLOO/1944bEXCLAMATION MARK",
  "bQUESTION MARKbDIGIT ZEROcONEcTWOcTHREEcFOURcFIVEcSIXcSEVENcEIGHTcNINEaTAI LE LETTER KAdXAdNGA",
  "dTSAdSAdYAdTAdTHAdLAdPAdPHAdMAdFAdVAdHAdQAdKHAdTSHAdNAdAdIdEEdEHdUdOOdOdUEdEdAUEdAI/1970",
  "dTONE-2dTONE-3dTONE-4dTONE-5dTONE-6/1980aNEW TAI LUE LETTER HIGH QAeLOW QAeHIGH KAfXAfNGA",
  "eLOW KAfXAfNGAeHIGH TSAfSAfYAeLOW TSAfSAfYAeHIGH TAfTHAfNAeLOW TAfTHAfNAeHIGH PAfPHAfMAeLOW PA",
  "fPHAfMAeHIGH FAfVAfLAeLOW FAfVAfLAeHIGH HAfDAfBAeLOW HAfDAfBAeHIGH KVAfXVAeLOW KVAfXVA",
  "eHIGH SUAeLOW SUA/19B0dVOWEL SIGN VOWEL SHORTENERfAAfIIfUfUUfEfAEfOfOAfUEfAYfAAYfUYfOYfOAYfUEY",
  "fIYdLETTER FINAL VfNGfNfMfKfDfBdTONE MARK-1eMARK-2/19D0dDIGIT ZEROeONEeTWOeTHREEeFOUReFIVEeSIX",
  "eSEVENeEIGHTeNINEdTHAM DIGIT ONE/19DEdSIGN LAEeLAEVaKHMER SYMBOL PATHAMASATcMUOY KOETcPII KOET",
  "cBEI KOETcBUON KOETcPRAM KOETcPRAM-MUOY KOETcPRAM-PII KOETcPRAM-BEI KOETcPRAM-BUON KOET",
  "cDAP KOETcDAP-MUOY KOETcDAP-PII KOETcDAP-BEI KOETcDAP-BUON KOETcDAP-PRAM KOETcTUTEYASAT",
  "cMUOY ROCcPII ROCcBEI ROCcBUON ROCcPRAM ROCcPRAM-MUOY ROCcPRAM-PII ROCcPRAM-BEI ROC",
  "cPRAM-BUON ROCcDAP ROCcDAP-MUOY ROCcDAP-PII ROCcDAP-BEI ROCcDAP-BUON ROCcDAP-PRAM ROC",
  "aBUGINESE LETTER KAcGAcNGAcNGKAcPAcBAcMAcMPAcTAcDAcNAcNRAcCAcJAcNYAcNYCAcYAcRAcLAcVAcSAcAcHA",
  "bVOWEL SIGN IdUdEdOdAE/1A1EbPALLAWAbEND OF SECTIONaTAI THAM LETTER HIGH KAeKHAeKXAdLOW KAeKXA",
  "eKHAdNGAdHIGH CAeCHAdLOW CAeSAeCHAdNYAdRATAdHIGH RATHAdDAdLOW RATHAdRANAdHIGH TAeTHAdLOW TA",
  "eTHAdNAdBAdHIGH PAePHAeFAdLOW PAeFAePHAdMAdLOW YAdHIGH YAdRAdRUEdLAdLUEdWAdHIGH SHAeSSAeSAeHA",
  "dLLAdAdLOW HAdIdIIdUdUUdEEdOOdLAEdGREAT SAcCONSONANT SIGN MEDIAL RAfLAeLA TANG LAI",
  "cSIGN MAI KANG LAIcCONSONANT SIGN FINAL NGAeLOW PAeHIGH RATHA OR LOW PAeMAeBAeSA/1A60",
  "cSIGN SAKOTcVOWEL SIGN AeMAI SATeAAeTALL AAeIeIIeUEeUUEeUeUUeOeOA BELOWeOYeEeAEeOOeAIeTHAM AI",
  "eOA ABOVEcSIGN MAI KANGdTONE-1dTONE-2dKHUEN TONE-3eTONE-4eTONE-5dRA HAAMdMAI SAM",
  "dKHUEN-LUE KARAN/1A7FcCOMBINING CRYPTOGRAMMIC DOTcHORA DIGIT ZEROeONEeTWOeTHREEeFOUReFIVEeSIX",
  "eSEVENeEIGHTeNINE/1A90cTHAM DIGIT ZEROeONEeTWOeTHREEeFOUReFIVEeSIXeSEVENeEIGHTeNINE/1AA0",
  "cSIGN WIANGdWIANGWAAKdSAWANdKEOWdHOYdDOKMAIdREVERSED ROTATED RANAdMAI YAMOKdKAANdKAANKUU",
  "dSATKAANdSATKAANKUUdHANGdCAANG/1AB0aCOMBINING DOUBLED CIRCUMFLEX ACCENTbDIAERESIS-RING",
  "bINFINITYbDOWNWARDS ARROWbTRIPLE DOTbX-X BELOWbWIGGLY LINE BELOWbOPEN MARK BELOW",
  "bDOUBLE OPEN MARK BELOWbLIGHT CENTRALIZATION STROKE BELOWbSTRONG CENTRALIZATION STROKE BELOW",
  "bPARENTHESES ABOVEbDOUBLE PARENTHESES ABOVEbPARENTHESES BELOWcOVERLAY",
  "bLATIN SMALL LETTER W BELOWeTURNED W BELOWbLEFT PARENTHESIS ABOVE LEFT",
  "bRIGHT PARENTHESIS ABOVE RIGHTbLEFT PARENTHESIS BELOW LEFTbRIGHT PARENTHESIS BELOW RIGHT",
  "bSQUARE BRACKETS ABOVEbNUMBER SIGN ABOVEbINVERTED DOUBLE ARCH ABOVEbPLUS SIGN ABOVE",
  "bDOUBLE PLUS SIGN ABOVEeBELOWbTRIPLE ACUTE ACCENTbLATIN SMALL LETTER INSULAR GfRfT/1B00",
  "aBALINESE SIGN ULU RICEMdCANDRAcCECEKcSURANGcBISAHbLETTER AKARAdTEDUNGcIKARAdTEDUNGcUKARA",
  "dTEDUNGcRA REPAeTEDUNGcLA LENGAeTEDUNGcEKARAcAIKARAcOKARAdTEDUNGcKAdMAHAPRANAcGAdGORAcNGAcCA",
  "dLACAcJAdJERAcNYAcTA LATIKdMURDA MAHAPRANAcDA MURDA ALPAPRANAeMAHAPRANAcNA RAMBATcTAdTAWAcDA",
  "dMADUcNAcPAdKAPALcBAdKEMBANGcMAcYAcRAcLAcWAcSA SAGAdSAPAcSAcHAbSIGN REREKANbVOWEL SIGN TEDUNG",
  "dULUeSARIdSUKUeILUTdRA REPAfTEDUNGdLA LENGAfTEDUNGdTALINGeREPAeTEDUNGeREPA TEDUNGdPEPETeTEDUNG",
  "bADEG ADEGbLETTER KAF SASAKcKHOT SASAKcTZIR SASAKcEF SASAKcVE SASAKcZAL SASAKcASYURA SASAK",
  "cARCHAIC JNYA/1B50bDIGIT ZEROcONEcTWOcTHREEcFOURcFIVEcSIXcSEVENcEIGHTcNINEbPANTIbPAMADAbWINDU",
  "bCARIK PAMUNGKAHcSIKIcPARERENbPAMENENGbMUSICAL SYMBOL DONGdDENGdDUNGdDANGeSURANGdDINGdDAENG",
  "dDEUNGdDAINGdDANG GEDEdCOMBINING TEGEHeENDEPeKEMPULeKEMPLIeJEGOGANeKEMPUL WITH JEGOGAN",
  "eKEMPLI WITH JEGOGANeBENDEeGONGdRIGHT-HAND OPEN DUGfDAGeCLOSED TUKfTAKdLEFT-HAND OPEN PANG",
  "fPUNGeCLOSED PLAKfPLUKeOPEN PINGbPANTI LANTANGbPAMADA LANTANG/1B80aSUNDANESE SIGN PANYECEK",
  "cPANGLAYARcPANGWISADbLETTER AcIcUcAEcOcEcEUcKAcQAcGAcNGAcCAcJAcZAcNYAcTAcDAcNAcPAcFAcVAcBAcMA",
  "cYAcRAcLAcWAcSAcXAcHAbCONSONANT SIGN PAMINGKALdPANYAKRAdPANYIKUbVOWEL SIGN PANGHULUdPANYUKU",
  "dPANAELAENGdPANOLONGdPAMEPETdPANEULEUNGbSIGN PAMAAEHcVIRAMAbCONSONANT SIGN PASANGAN MAeWA",
  "bLETTER KHAcSYAbDIGIT ZEROcONEcTWOcTHREEcFOURcFIVEcSIXcSEVENcEIGHTcNINEbAVAGRAHAbLETTER REU",
  "cLEUcBHAcFINAL KdMaBATAK LETTER AcSIMALUNGUN AcHAcSIMALUNGUN HAcMANDAILING HAcBAcKARO BAcPA",
  "cSIMALUNGUN PAcNAcMANDAILING NAcWAcSIMALUNGUN WAcPAKPAK WAcGAcSIMALUNGUN GAcJAcDAcRA",
  "cSIMALUNGUN RAcMAcSIMALUNGUN MAcSOUTHERN TAcNORTHERN TAcSAcSIMALUNGUN SAcMANDAILING SAcYA",
  "cSIMALUNGUN YAcNGAcLAcSIMALUNGUN LAcNYAcCAcNDAcMBAcIcUbSIGN TOMPIbVOWEL SIGN EdPAKPAK EdEEdI",
  "dKARO IdOdKARO OdUeFOR SIMALUNGUN SAbCONSONANT SIGN NGdHbPANGOLATbPANONGONAN/1BFC",
  "bSYMBOL BINDU NA METEKdPINARBORASdJUDULdPANGOLATaLEPCHA LETTER KAcKLAcKHAcGAcGLAcNGAcCAcCHAcJA",
  "cNYAcTAcTHAcDAcNAcPAcPLAcPHAcFAcFLAcBAcBLAcMAcMLAcTSAcTSHAcDZAcYAcRAcLAcHAcHLAcVAcSAcSHAcWAcA",
  "bSUBJOINED LETTER YAdRAbVOWEL SIGN AAdIdOdOOdUdUUdEbCONSONANT SIGN KdMdLdNdPdRdTdNYIN-DOdKANG",
  "bSIGN RANcNUKTA/1C3BbPUNCTUATION TA-ROLcNYET THYOOM TA-ROLcCER-WAcTSHOOK CER-WAcTSHOOK",
  "bDIGIT ZEROcONEcTWOcTHREEcFOURcFIVEcSIXcSEVENcEIGHTcNINE/1C4DbLETTER TTAcTTHAcDDA",
  "aOL CHIKI DIGIT ZEROdONEdTWOdTHREEdFOURdFIVEdSIXdSEVENdEIGHTdNINEcLETTER LAdATdAGdANGdALdLAA",
  "dAAKdAAJdAAMdAAWdLIdISdIHdINYdIRdLUdUCdUDdUNNdUYdLEdEPdEDDdENdERRdLOdOTTdOBdOVdOHcMU TTUDDAG",
  "cGAAHLAA TTUDDAAGcMU-GAAHLAA TTUDDAAGcRELAAcPHAARKAAcAHADcPUNCTUATION MUCAADdDOUBLE MUCAAD",
  "aCYRILLIC SMALL LETTER ROUNDED VEdLONG-LEGGED DEdNARROW OdWIDE ESdTALL TEdTHREE-LEGGED TE",
  "dTALL HARD SIGNeYATdUNBLENDED UK/1C90aGEORGIAN MTAVRULI CAPITAL LETTER ANeBANeGANeDONeENeVIN",
  "eZENeTANeINeKANeLASeMANeNAReONePAReZHAReRAEeSANeTAReUNePHAReKHAReGHANeQAReSHINeCHINeCANeJIL",
  "eCILeCHAReXANeJHANeHAEeHEeHIEeWEeHAReHOEeFIeYNeELIFIeTURNED GANeAIN/1CBDeAENeHARD SIGN",
  "eLABIAL SIGNaSUNDANESE PUNCTUATION BINDU SURYAdPANGLONGdPURNAMAdCAKRAdLEU SATANGAdKA SATANGA",
  "dDA SATANGAdBA SATANGA/1CD0aVEDIC TONE KARSHANAcSHARAcPRENKHAbSIGN NIHSHVASA",
  "cYAJURVEDIC MIDLINE SVARITAbTONE YAJURVEDIC AGGRAVATED INDEPENDENT SVARITAdINDEPENDENT SVARITA",
  "dKATHAKA INDEPENDENT SVARITAcCANDRA BELOWcYAJURVEDIC KATHAKA INDEPENDENT SVARITA SCHROEDER",
  "cDOUBLE SVARITAcTRIPLE SVARITAcKATHAKA ANUDATTAcDOT BELOWcTWO DOTS BELOWcTHREE DOTS BELOW",
  "cRIGVEDIC KASHMIRI INDEPENDENT SVARITAcATHARVAVEDIC INDEPENDENT SVARITAbSIGN VISARGA SVARITA",
  "dUDATTAcREVERSED VISARGA UDATTAcVISARGA ANUDATTAcREVERSED VISARGA ANUDATTA",
  "cVISARGA UDATTA WITH TAILdANUDATTA WITH TAILcANUSVARA ANTARGOMUKHAdBAHIRGOMUKHAdVAMAGOMUKHA",
  "eWITH TAILcTIRYAKcHEXIFORM LONG ANUSVARAcLONG ANUSVARAcRTHANG LONG ANUSVARA",
  "cANUSVARA UBHAYATO MUKHAcARDHAVISARGAcROTATED ARDHAVISARGAbTONE CANDRA ABOVEbSIGN JIHVAMULIYA",
  "cUPADHMANIYAcATIKRAMAbTONE RING ABOVEcDOUBLE RING ABOVEbSIGN DOUBLE ANUSVARA ANTARGOMUKHA/1D00",
  "aLATIN LETTER SMALL CAPITAL AeAEbSMALL LETTER TURNED AEbLETTER SMALL CAPITAL BARRED BeCeDeETH",
  "eEbSMALL LETTER TURNED OPEN EeIbLETTER SMALL CAPITAL JeKeL WITH STROKEeMeREVERSED NeOeOPEN O",
  "bSMALL LETTER SIDEWAYS OeOPEN OeO WITH STROKEdTURNED OEbLETTER SMALL CAPITAL OU",
  "bSMALL LETTER TOP HALF OdBOTTOM HALF ObLETTER SMALL CAPITAL PeREVERSED ReTURNED ReTeU",
  "bSMALL LETTER SIDEWAYS UeDIAERESIZED UeTURNED MbLETTER SMALL CAPITAL VeWeZeEZH",
  "cVOICED LARYNGEAL SPIRANTcAINaGREEK LETTER SMALL CAPITAL GAMMAeLAMDAePIeRHOePSI",
  "aCYRILLIC LETTER SMALL CAPITAL ELaMODIFIER LETTER CAPITAL AdAEdBdBARRED BdDdEdREVERSED EdGdHdI",
  "dJdKdLdMdNdREVERSED NdOdOUdPdRdTdUdWcSMALL AdTURNED AdALPHAdTURNED AEdBdDdEdSCHWAdOPEN E",
  "dTURNED OPEN EdGdTURNED IdKdMdENGdOdOPEN OdTOP HALF OdBOTTOM HALF OdPdTdUdSIDEWAYS UdTURNED M",
  "dVdAINdBETAdGREEK GAMMAdDELTAdGREEK PHIdCHIaLATIN SUBSCRIPT SMALL LETTER IeReUeV",
  "aGREEK SUBSCRIPT SMALL LETTER BETAeGAMMAeRHOePHIeCHIaLATIN SMALL LETTER UEdB WITH MIDDLE TILDE",
  "dD WITH MIDDLE TILDEdF WITH MIDDLE TILDEdM WITH MIDDLE TILDEdN WITH MIDDLE TILDE",
  "dP WITH MIDDLE TILDEdR WITH MIDDLE TILDEfFISHHOOK AND MIDDLE TILDEdS WITH MIDDLE TILDE",
  "dT WITH MIDDLE TILDEdZ WITH MIDDLE TILDEdTURNED GaMODIFIER LETTER CYRILLIC EN",
  "aLATIN SMALL LETTER INSULAR GdTH WITH STRIKETHROUGHcCAPITAL LETTER I WITH STROKE",
  "cLETTER IOTA WITH STROKEdP WITH STROKEcCAPITAL LETTER U WITH STROKEcLETTER UPSILON WITH STROKE",
  "dB WITH PALATAL HOOKdD WITH PALATAL HOOKdF WITH PALATAL HOOKdG WITH PALATAL HOOK",
  "dK WITH PALATAL HOOKdL WITH PALATAL HOOKdM WITH PALATAL HOOKdN WITH PALATAL HOOK",
  "dP WITH PALATAL HOOKdR WITH PALATAL HOOKdS WITH PALATAL HOOKdESH WITH PALATAL HOOK",
  "dV WITH PALATAL HOOKdX WITH PALATAL HOOKdZ WITH PALATAL HOOKdA WITH RETROFLEX HOOK",
  "dALPHA WITH RETROFLEX HOOKdD WITH HOOK AND TAILdE WITH RETROFLEX HOOK",
  "dOPEN E WITH RETROFLEX HOOKdREVERSED OPEN E WITH RETROFLEX HOOKdSCHWA WITH RETROFLEX HOOK",
  "dI WITH RETROFLEX HOOKdOPEN O WITH RETROFLEX HOOKdESH WITH RETROFLEX HOOK",
  "dU WITH RETROFLEX HOOKdEZH WITH RETROFLEX HOOKaMODIFIER LETTER SMALL TURNED ALPHAdCeWITH CURL",
  "dETHdREVERSED OPEN EdFdDOTLESS J WITH STROKEdSCRIPT GdTURNED HdI WITH STROKEdIOTAdCAPITAL I",
  "fWITH STROKEdJ WITH CROSSED-TAILdL WITH RETROFLEX HOOKfPALATAL HOOKdCAPITAL LdM WITH HOOK",
  "dTURNED M WITH LONG LEGdN WITH LEFT HOOKfRETROFLEX HOOKdCAPITAL NdBARRED OdPHIdS WITH HOOKdESH",
  "dT WITH PALATAL HOOKdU BARdUPSILONdCAPITAL UdV WITH HOOKdTURNED VdZeWITH RETROFLEX HOOKfCURL",
  "dEZHdTHETAaCOMBINING DOTTED GRAVE ACCENTcACUTE ACCENTbSNAKE BELOWbSUSPENSION MARKbMACRON-ACUTE",
  "bGRAVE-MACRONbMACRON-GRAVEbACUTE-MACRONbGRAVE-ACUTE-GRAVEbACUTE-GRAVE-ACUTE",
  "bLATIN SMALL LETTER R BELOWbBREVE-MACRONbMACRON-BREVEbDOUBLE CIRCUMFLEX ABOVEbOGONEK ABOVE",
  "bZIGZAG BELOWbIS BELOWbUR ABOVEbUS ABOVEbLATIN SMALL LETTER FLATTENED OPEN A ABOVEeAEeAOeAV",
  "eC CEDILLAeINSULAR DeETHeGcLETTER SMALL CAPITAL GcSMALL LETTER KeLcLETTER SMALL CAPITAL LfM",
  "cSMALL LETTER NcLETTER SMALL CAPITAL NfRcSMALL LETTER R ROTUNDAeSeLONG SeZeALPHAeBeBETAeSCHWA",
  "eFeL WITH DOUBLE MIDDLE TILDEeO WITH LIGHT CENTRALIZATION STROKEePeESH",
  "eU WITH LIGHT CENTRALIZATION STROKEeWeA WITH DIAERESISeO WITH DIAERESISeU WITH DIAERESIS",
  "bUP TACK ABOVEbKAVYKA ABOVE RIGHTdLEFTbDOT ABOVE LEFTbWIDE INVERTED BRIDGE BELOW",
  "bDOT BELOW LEFTbDELETION MARKbDOUBLE INVERTED BREVE BELOWbALMOST EQUAL TO BELOW",
  "bLEFT ARROWHEAD ABOVEbRIGHT ARROWHEAD AND DOWN ARROWHEAD BELOW",
  "aLATIN CAPITAL LETTER A WITH RING BELOWbSMALL LETTER A WITH RING BELOW",
  "bCAPITAL LETTER B WITH DOT ABOVEbSMALL LETTER B WITH DOT ABOVEbCAPITAL LETTER B WITH DOT BELOW",
  "bSMALL LETTER B WITH DOT BELOWbCAPITAL LETTER B WITH LINE BELOWbSMALL LETTER B WITH LINE BELOW",
  "bCAPITAL LETTER C WITH CEDILLA AND ACUTEbSMALL LETTER C WITH CEDILLA AND ACUTE",
  "bCAPITAL LETTER D WITH DOT ABOVEbSMALL LETTER D WITH DOT ABOVEbCAPITAL LETTER D WITH DOT BELOW",
  "bSMALL LETTER D WITH DOT BELOWbCAPITAL LETTER D WITH LINE BELOWbSMALL LETTER D WITH LINE BELOW",
  "bCAPITAL LETTER D WITH CEDILLAbSMALL LETTER D WITH CEDILLA",
  "bCAPITAL LETTER D WITH CIRCUMFLEX BELOWbSMALL LETTER D WITH CIRCUMFLEX BELOW",
  "bCAPITAL LETTER E WITH MACRON AND GRAVEbSMALL LETTER E WITH MACRON AND GRAVE",
  "bCAPITAL LETTER E WITH MACRON AND ACUTEbSMALL LETTER E WITH MACRON AND ACUTE",
  "bCAPITAL LETTER E WITH CIRCUMFLEX BELOWbSMALL LETTER E WITH CIRCUMFLEX BELOW",
  "bCAPITAL LETTER E WITH TILDE BELOWbSMALL LETTER E WITH TILDE BELOW",
  "bCAPITAL LETTER E WITH CEDILLA AND BREVEbSMALL LETTER E WITH CEDILLA AND BREVE",
  "bCAPITAL LETTER F WITH DOT ABOVEbSMALL LETTER F WITH DOT ABOVEbCAPITAL LETTER G WITH MACRON",
  "bSMALL LETTER G WITH MACRONbCAPITAL LETTER H WITH DOT ABOVEbSMALL LETTER H WITH DOT ABOVE",
  "bCAPITAL LETTER H WITH DOT BELOWbSMALL LETTER H WITH DOT BELOWbCAPITAL LETTER H WITH DIAERESIS",
  "bSMALL LETTER H WITH DIAERESISbCAPITAL LETTER H WITH CEDILLAbSMALL LETTER H WITH CEDILLA",
  "bCAPITAL LETTER H WITH BREVE BELOWbSMALL LETTER H WITH BREVE BELOW",
  "bCAPITAL LETTER I WITH TILDE BELOWbSMALL LETTER I WITH TILDE BELOW",
  "bCAPITAL LETTER I WITH DIAERESIS AND ACUTEbSMALL LETTER I WITH DIAERESIS AND ACUTE",
  "bCAPITAL LETTER K WITH ACUTEbSMALL LETTER K WITH ACUTEbCAPITAL LETTER K WITH DOT BELOW",
  "bSMALL LETTER K WITH DOT BELOWbCAPITAL LETTER K WITH LINE BELOWbSMALL LETTER K WITH LINE BELOW",
  "bCAPITAL LETTER L WITH DOT BELOWbSMALL LETTER L WITH DOT BELOW",
  "bCAPITAL LETTER L WITH DOT BELOW AND MACRONbSMALL LETTER L WITH DOT BELOW AND MACRON",
  "bCAPITAL LETTER L WITH LINE BELOWbSMALL LETTER L WITH LINE BELOW",
  "bCAPITAL LETTER L WITH CIRCUMFLEX BELOWbSMALL LETTER L WITH CIRCUMFLEX BELOW",
  "bCAPITAL LETTER M WITH ACUTEbSMALL LETTER M WITH ACUTEbCAPITAL LETTER M WITH DOT ABOVE",
  "bSMALL LETTER M WITH DOT ABOVEbCAPITAL LETTER M WITH DOT BELOWbSMALL LETTER M WITH DOT BELOW",
  "bCAPITAL LETTER N WITH DOT ABOVEbSMALL LETTER N WITH DOT ABOVEbCAPITAL LETTER N WITH DOT BELOW",
  "bSMALL LETTER N WITH DOT BELOWbCAPITAL LETTER N WITH LINE BELOWbSMALL LETTER N WITH LINE BELOW",
  "bCAPITAL LETTER N WITH CIRCUMFLEX BELOWbSMALL LETTER N WITH CIRCUMFLEX BELOW",
  "bCAPITAL LETTER O WITH TILDE AND ACUTEbSMALL LETTER O WITH TILDE AND ACUTE",
  "bCAPITAL LETTER O WITH TILDE AND DIAERESISbSMALL LETTER O WITH TILDE AND DIAERESIS",
  "bCAPITAL LETTER O WITH MACRON AND GRAVEbSMALL LETTER O WITH MACRON AND GRAVE",
  "bCAPITAL LETTER O WITH MACRON AND ACUTEbSMALL LETTER O WITH MACRON AND ACUTE",
  "bCAPITAL LETTER P WITH ACUTEbSMALL LETTER P WITH ACUTEbCAPITAL LETTER P WITH DOT ABOVE",
  "bSMALL LETTER P WITH DOT ABOVEbCAPITAL LETTER R WITH DOT ABOVEbSMALL LETTER R WITH DOT ABOVE",
  "bCAPITAL LETTER R WITH DOT BELOWbSMALL LETTER R WITH DOT BELOW",
  "bCAPITAL LETTER R WITH DOT BELOW AND MACRONbSMALL LETTER R WITH DOT BELOW AND MACRON",
  "bCAPITAL LETTER R WITH LINE BELOWbSMALL LETTER R WITH LINE BELOW",
  "bCAPITAL LETTER S WITH DOT ABOVEbSMALL LETTER S WITH DOT ABOVEbCAPITAL LETTER S WITH DOT BELOW",
  "bSMALL LETTER S WITH DOT BELOWbCAPITAL LETTER S WITH ACUTE AND DOT ABOVE",
  "bSMALL LETTER S WITH ACUTE AND DOT ABOVEbCAPITAL LETTER S WITH CARON AND DOT ABOVE",
  "bSMALL LETTER S WITH CARON AND DOT ABOVEbCAPITAL LETTER S WITH DOT BELOW AND DOT ABOVE",
  "bSMALL LETTER S WITH DOT BELOW AND DOT ABOVEbCAPITAL LETTER T WITH DOT ABOVE",
  "bSMALL LETTER T WITH DOT ABOVEbCAPITAL LETTER T WITH DOT BELOWbSMALL LETTER T WITH DOT BELOW",
  "bCAPITAL LETTER T WITH LINE BELOWbSMALL LETTER T WITH LINE BELOW",
  "bCAPITAL LETTER T WITH CIRCUMFLEX BELOWbSMALL LETTER T WITH CIRCUMFLEX BELOW",
  "bCAPITAL LETTER U WITH DIAERESIS BELOWbSMALL LETTER U WITH DIAERESIS BELOW",
  "bCAPITAL LETTER U WITH TILDE BELOWbSMALL LETTER U WITH TILDE BELOW",
  "bCAPITAL LETTER U WITH CIRCUMFLEX BELOWbSMALL LETTER U WITH CIRCUMFLEX BELOW",
  "bCAPITAL LETTER U WITH TILDE AND ACUTEbSMALL LETTER U WITH TILDE AND ACUTE",
  "bCAPITAL LETTER U WITH MACRON AND DIAERESISbSMALL LETTER U WITH MACRON AND DIAERESIS",
  "bCAPITAL LETTER V WITH TILDEbSMALL LETTER V WITH TILDEbCAPITAL LETTER V WITH DOT BELOW",
  "bSMALL LETTER V WITH DOT BELOWbCAPITAL LETTER W WITH GRAVEbSMALL LETTER W WITH GRAVE",
  "bCAPITAL LETTER W WITH ACUTEbSMALL LETTER W WITH ACUTEbCAPITAL LETTER W WITH DIAERESIS",
  "bSMALL LETTER W WITH DIAERESISbCAPITAL LETTER W WITH DOT ABOVEbSMALL LETTER W WITH DOT ABOVE",
  "bCAPITAL LETTER W WITH DOT BELOWbSMALL LETTER W WITH DOT BELOWbCAPITAL LETTER X WITH DOT ABOVE",
  "bSMALL LETTER X WITH DOT ABOVEbCAPITAL LETTER X WITH DIAERESISbSMALL LETTER X WITH DIAERESIS",
  "bCAPITAL LETTER Y WITH DOT ABOVEbSMALL LETTER Y WITH DOT ABOVE",
  "bCAPITAL LETTER Z WITH CIRCUMFLEXbSMALL LETTER Z WITH CIRCUMFLEX",
  "bCAPITAL LETTER Z WITH DOT BELOWbSMALL LETTER Z WITH DOT BELOW",
  "bCAPITAL LETTER Z WITH LINE BELOWbSMALL LETTER Z WITH LINE BELOWdH WITH LINE BELOW",
  "dT WITH DIAERESISdW WITH RING ABOVEdY WITH RING ABOVEdA WITH RIGHT HALF RING",
  "dLONG S WITH DOT ABOVEgDIAGONAL STROKEgHIGH STROKEbCAPITAL LETTER SHARP SbSMALL LETTER DELTA",
  "bCAPITAL LETTER A WITH DOT BELOWbSMALL LETTER A WITH DOT BELOW",
  "bCAPITAL LETTER A WITH HOOK ABOVEbSMALL LETTER A WITH HOOK ABOVE",
  "bCAPITAL LETTER A WITH CIRCUMFLEX AND ACUTEbSMALL LETTER A WITH CIRCUMFLEX AND ACUTE",
  "bCAPITAL LETTER A WITH CIRCUMFLEX AND GRAVEbSMALL LETTER A WITH CIRCUMFLEX AND GRAVE",
  "bCAPITAL LETTER A WITH CIRCUMFLEX AND HOOK ABOVEbSMALL LETTER A WITH CIRCUMFLEX AND HOOK ABOVE",
  "bCAPITAL LETTER A WITH CIRCUMFLEX AND TILDEbSMALL LETTER A WITH CIRCUMFLEX AND TILDE",
  "bCAPITAL LETTER A WITH CIRCUMFLEX AND DOT BELOWbSMALL LETTER A WITH CIRCUMFLEX AND DOT BELOW",
  "bCAPITAL LETTER A WITH BREVE AND ACUTEbSMALL LETTER A WITH BREVE AND ACUTE",
  "bCAPITAL LETTER A WITH BREVE AND GRAVEbSMALL LETTER A WITH BREVE AND GRAVE",
  "bCAPITAL LETTER A WITH BREVE AND HOOK ABOVEbSMALL LETTER A WITH BREVE AND HOOK ABOVE",
  "bCAPITAL LETTER A WITH BREVE AND TILDEbSMALL LETTER A WITH BREVE AND TILDE",
  "bCAPITAL LETTER A WITH BREVE AND DOT BELOWbSMALL LETTER A WITH BREVE AND DOT BELOW",
  "bCAPITAL LETTER E WITH DOT BELOWbSMALL LETTER E WITH DOT BELOW",
  "bCAPITAL LETTER E WITH HOOK ABOVEbSMALL LETTER E WITH HOOK ABOVEbCAPITAL LETTER E WITH TILDE",
  "bSMALL LETTER E WITH TILDEbCAPITAL LETTER E WITH CIRCUMFLEX AND ACUTE",
  "bSMALL LETTER E WITH CIRCUMFLEX AND ACUTEbCAPITAL LETTER E WITH CIRCUMFLEX AND GRAVE",
  "bSMALL LETTER E WITH CIRCUMFLEX AND GRAVEbCAPITAL LETTER E WITH CIRCUMFLEX AND HOOK ABOVE",
  "bSMALL LETTER E WITH CIRCUMFLEX AND HOOK ABOVEbCAPITAL LETTER E WITH CIRCUMFLEX AND TILDE",
  "bSMALL LETTER E WITH CIRCUMFLEX AND TILDEbCAPITAL LETTER E WITH CIRCUMFLEX AND DOT BELOW",
  "bSMALL LETTER E WITH CIRCUMFLEX AND DOT BELOWbCAPITAL LETTER I WITH HOOK ABOVE",
  "bSMALL LETTER I WITH HOOK ABOVEbCAPITAL LETTER I WITH DOT BELOWbSMALL LETTER I WITH DOT BELOW",
  "bCAPITAL LETTER O WITH DOT BELOWbSMALL LETTER O WITH DOT BELOW",
  "bCAPITAL LETTER O WITH HOOK ABOVEbSMALL LETTER O WITH HOOK ABOVE",
  "bCAPITAL LETTER O WITH CIRCUMFLEX AND ACUTEbSMALL LETTER O WITH CIRCUMFLEX AND ACUTE",
  "bCAPITAL LETTER O WITH CIRCUMFLEX AND GRAVEbSMALL LETTER O WITH CIRCUMFLEX AND GRAVE",
  "bCAPITAL LETTER O WITH CIRCUMFLEX AND HOOK ABOVEbSMALL LETTER O WITH CIRCUMFLEX AND HOOK ABOVE",
  "bCAPITAL LETTER O WITH CIRCUMFLEX AND TILDEbSMALL LETTER O WITH CIRCUMFLEX AND TILDE",
  "bCAPITAL LETTER O WITH CIRCUMFLEX AND DOT BELOWbSMALL LETTER O WITH CIRCUMFLEX AND DOT BELOW",
  "bCAPITAL LETTER O WITH HORN AND ACUTEbSMALL LETTER O WITH HORN AND ACUTE",
  "bCAPITAL LETTER O WITH HORN AND GRAVEbSMALL LETTER O WITH HORN AND GRAVE",
  "bCAPITAL LETTER O WITH HORN AND HOOK ABOVEbSMALL LETTER O WITH HORN AND HOOK ABOVE",
  "bCAPITAL LETTER O WITH HORN AND TILDEbSMALL LETTER O WITH HORN AND TILDE",
  "bCAPITAL LETTER O WITH HORN AND DOT BELOWbSMALL LETTER O WITH HORN AND DOT BELOW",
  "bCAPITAL LETTER U WITH DOT BELOWbSMALL LETTER U WITH DOT BELOW",
  "bCAPITAL LETTER U WITH HOOK ABOVEbSMALL LETTER U WITH HOOK ABOVE",
  "bCAPITAL LETTER U WITH HORN AND ACUTEbSMALL LETTER U WITH HORN AND ACUTE",
  "bCAPITAL LETTER U WITH HORN AND GRAVEbSMALL LETTER U WITH HORN AND GRAVE",
  "bCAPITAL LETTER U WITH HORN AND HOOK ABOVEbSMALL LETTER U WITH HORN AND HOOK ABOVE",
  "bCAPITAL LETTER U WITH HORN AND TILDEbSMALL LETTER U WITH HORN AND TILDE",
  "bCAPITAL LETTER U WITH HORN AND DOT BELOWbSMALL LETTER U WITH HORN AND DOT BELOW",
  "bCAPITAL LETTER Y WITH GRAVEbSMALL LETTER Y WITH GRAVEbCAPITAL LETTER Y WITH DOT BELOW",
  "bSMALL LETTER Y WITH DOT BELOWbCAPITAL LETTER Y WITH HOOK ABOVEbSMALL LETTER Y WITH HOOK ABOVE",
  "bCAPITAL LETTER Y WITH TILDEbSMALL LETTER Y WITH TILDEbCAPITAL LETTER MIDDLE-WELSH LL",
  "bSMALL LETTER MIDDLE-WELSH LLbCAPITAL LETTER MIDDLE-WELSH VbSMALL LETTER MIDDLE-WELSH V",
  "bCAPITAL LETTER Y WITH LOOPbSMALL LETTER Y WITH LOOPaGREEK SMALL LETTER ALPHA WITH PSILIfDASIA",
  "fPSILI AND VARIAfDASIA AND VARIAfPSILI AND OXIAfDASIA AND OXIAfPSILI AND PERISPOMENI",
  "fDASIA AND PERISPOMENIbCAPITAL LETTER ALPHA WITH PSILIfDASIAfPSILI AND VARIAfDASIA AND VARIA",
  "fPSILI AND OXIAfDASIA AND OXIAfPSILI AND PERISPOMENIfDASIA AND PERISPOMENI",
  "bSMALL LETTER EPSILON WITH PSILIfDASIAfPSILI AND VARIAfDASIA AND VARIAfPSILI AND OXIA",
  "fDASIA AND OXIA/1F18bCAPITAL LETTER EPSILON WITH PSILIfDASIAfPSILI AND VARIAfDASIA AND VARIA",
  "fPSILI AND OXIAfDASIA AND OXIA/1F20bSMALL LETTER ETA WITH PSILIfDASIAfPSILI AND VARIA",
  "fDASIA AND VARIAfPSILI AND OXIAfDASIA AND OXIAfPSILI AND PERISPOMENIfDASIA AND PERISPOMENI",
  "bCAPITAL LETTER ETA WITH PSILIfDASIAfPSILI AND VARIAfDASIA AND VARIAfPSILI AND OXIA",
  "fDASIA AND OXIAfPSILI AND PERISPOMENIfDASIA AND PERISPOMENIbSMALL LETTER IOTA WITH PSILIfDASIA",
  "fPSILI AND VARIAfDASIA AND VARIAfPSILI AND OXIAfDASIA AND OXIAfPSILI AND PERISPOMENI",
  "fDASIA AND PERISPOMENIbCAPITAL LETTER IOTA WITH PSILIfDASIAfPSILI AND VARIAfDASIA AND VARIA",
  "fPSILI AND OXIAfDASIA AND OXIAfPSILI AND PERISPOMENIfDASIA AND PERISPOMENI",
  "bSMALL LETTER OMICRON WITH PSILIfDASIAfPSILI AND VARIAfDASIA AND VARIAfPSILI AND OXIA",
  "fDASIA AND OXIA/1F48bCAPITAL LETTER OMICRON WITH PSILIfDASIAfPSILI AND VARIAfDASIA AND VARIA",
  "fPSILI AND OXIAfDASIA AND OXIA/1F50bSMALL LETTER UPSILON WITH PSILIfDASIAfPSILI AND VARIA",
  "fDASIA AND VARIAfPSILI AND OXIAfDASIA AND OXIAfPSILI AND PERISPOMENIfDASIA AND PERISPOMENI",
  "/1F59bCAPITAL LETTER UPSILON WITH DASIA/1F5BgAND VARIA/1F5DhOXIA/1F5FhPERISPOMENI",
  "bSMALL LETTER OMEGA WITH PSILIfDASIAfPSILI AND VARIAfDASIA AND VARIAfPSILI AND OXIA",
  "fDASIA AND OXIAfPSILI AND PERISPOMENIfDASIA AND PERISPOMENIbCAPITAL LETTER OMEGA WITH PSILI",
  "fDASIAfPSILI AND VARIAfDASIA AND VARIAfPSILI AND OXIAfDASIA AND OXIAfPSILI AND PERISPOMENI",
  "fDASIA AND PERISPOMENIbSMALL LETTER ALPHA WITH VARIAfOXIAdEPSILON WITH VARIAfOXIA",
  "dETA WITH VARIAfOXIAdIOTA WITH VARIAfOXIAdOMICRON WITH VARIAfOXIAdUPSILON WITH VARIAfOXIA",
  "dOMEGA WITH VARIAfOXIA/1F80dALPHA WITH PSILI AND YPOGEGRAMMENIfDASIA AND YPOGEGRAMMENI",
  "fPSILI AND VARIA AND YPOGEGRAMMENIfDASIA AND VARIA AND YPOGEGRAMMENI",
  "fPSILI AND OXIA AND YPOGEGRAMMENIfDASIA AND OXIA AND YPOGEGRAMMENI",
  "fPSILI AND PERISPOMENI AND YPOGEGRAMMENIfDASIA AND PERISPOMENI AND YPOGEGRAMMENI",
  "bCAPITAL LETTER ALPHA WITH PSILI AND PROSGEGRAMMENIfDASIA AND PROSGEGRAMMENI",
  "fPSILI AND VARIA AND PROSGEGRAMMENIfDASIA AND VARIA AND PROSGEGRAMMENI",
  "fPSILI AND OXIA AND PROSGEGRAMMENIfDASIA AND OXIA AND PROSGEGRAMMENI",
  "fPSILI AND PERISPOMENI AND PROSGEGRAMMENIfDASIA AND PERISPOMENI AND PROSGEGRAMMENI",
  "bSMALL LETTER ETA WITH PSILI AND YPOGEGRAMMENIfDASIA AND YPOGEGRAMMENI",
  "fPSILI AND VARIA AND YPOGEGRAMMENIfDASIA AND VARIA AND YPOGEGRAMMENI",
  "fPSILI AND OXIA AND YPOGEGRAMMENIfDASIA AND OXIA AND YPOGEGRAMMENI",
  "fPSILI AND PERISPOMENI AND YPOGEGRAMMENIfDASIA AND PERISPOMENI AND YPOGEGRAMMENI",
  "bCAPITAL LETTER ETA WITH PSILI AND PROSGEGRAMMENIfDASIA AND PROSGEGRAMMENI",
  "fPSILI AND VARIA AND PROSGEGRAMMENIfDASIA AND VARIA AND PROSGEGRAMMENI",
  "fPSILI AND OXIA AND PROSGEGRAMMENIfDASIA AND OXIA AND PROSGEGRAMMENI",
  "fPSILI AND PERISPOMENI AND PROSGEGRAMMENIfDASIA AND PERISPOMENI AND PROSGEGRAMMENI",
  "bSMALL LETTER OMEGA WITH PSILI AND YPOGEGRAMMENIfDASIA AND YPOGEGRAMMENI",
  "fPSILI AND VARIA AND YPOGEGRAMMENIfDASIA AND VARIA AND YPOGEGRAMMENI",
  "fPSILI AND OXIA AND YPOGEGRAMMENIfDASIA AND OXIA AND YPOGEGRAMMENI",
  "fPSILI AND PERISPOMENI AND YPOGEGRAMMENIfDASIA AND PERISPOMENI AND YPOGEGRAMMENI",
  "bCAPITAL LETTER OMEGA WITH PSILI AND PROSGEGRAMMENIfDASIA AND PROSGEGRAMMENI",
  "fPSILI AND VARIA AND PROSGEGRAMMENIfDASIA AND VARIA AND PROSGEGRAMMENI",
  "fPSILI AND OXIA AND PROSGEGRAMMENIfDASIA AND OXIA AND PROSGEGRAMMENI",
  "fPSILI AND PERISPOMENI AND PROSGEGRAMMENIfDASIA AND PERISPOMENI AND PROSGEGRAMMENI",
  "bSMALL LETTER ALPHA WITH VRACHYfMACRONfVARIA AND YPOGEGRAMMENIfYPOGEGRAMMENI",
  "fOXIA AND YPOGEGRAMMENI/1FB6fPERISPOMENIgAND YPOGEGRAMMENIbCAPITAL LETTER ALPHA WITH VRACHY",
  "fMACRONfVARIAfOXIAfPROSGEGRAMMENIbKORONISbPROSGEGRAMMENIbPSILIbPERISPOMENI",
  "bDIALYTIKA AND PERISPOMENIbSMALL LETTER ETA WITH VARIA AND YPOGEGRAMMENIfYPOGEGRAMMENI",
  "fOXIA AND YPOGEGRAMMENI/1FC6fPERISPOMENIgAND YPOGEGRAMMENIbCAPITAL LETTER EPSILON WITH VARIA",
  "fOXIAdETA WITH VARIAfOXIAfPROSGEGRAMMENIbPSILI AND VARIAdOXIAdPERISPOMENI",
  "bSMALL LETTER IOTA WITH VRACHYfMACRONfDIALYTIKA AND VARIAhOXIA/1FD6fPERISPOMENI",
  "fDIALYTIKA AND PERISPOMENIbCAPITAL LETTER IOTA WITH VRACHYfMACRONfVARIAfOXIA/1FDD",
  "bDASIA AND VARIAdOXIAdPERISPOMENIbSMALL LETTER UPSILON WITH VRACHYfMACRONfDIALYTIKA AND VARIA",
  "hOXIAdRHO WITH PSILIfDASIAdUPSILON WITH PERISPOMENIfDIALYTIKA AND PERISPOMENI",
  "bCAPITAL LETTER UPSILON WITH VRACHYfMACRONfVARIAfOXIAdRHO WITH DASIAbDIALYTIKA AND VARIAdOXIA",
  "bVARIA/1FF2bSMALL LETTER OMEGA WITH VARIA AND YPOGEGRAMMENIfYPOGEGRAMMENI",
  "fOXIA AND YPOGEGRAMMENI/1FF6fPERISPOMENIgAND YPOGEGRAMMENIbCAPITAL LETTER OMICRON WITH VARIA",
  "fOXIAdOMEGA WITH VARIAfOXIAfPROSGEGRAMMENIbOXIAbDASIA"]

end LexPattern.Name.Table
