namespace LexPattern.Name.Table

def fromU1C000 : List String := [
  "/1CF00aZNAMENNY COMBINING MARK GORAZDO NIZKO S KRYZHEM ON LEFTdNIZKO S KRYZHEM ON LEFT",
  "dTSATA ON LEFTdGORAZDO NIZKO ON LEFTdNIZKO ON LEFTdSREDNE ON LEFTdMALO POVYSHE ON LEFT",
  "dPOVYSHE ON LEFTdVYSOKO ON LEFTdMALO POVYSHE S KHOKHLOM ON LEFTdPOVYSHE S KHOKHLOM ON LEFT",
  "dVYSOKO S KHOKHLOM ON LEFTdGORAZDO NIZKO S KRYZHEM ON RIGHTdNIZKO S KRYZHEM ON RIGHT",
  "dTSATA ON RIGHTdGORAZDO NIZKO ON RIGHTdNIZKO ON RIGHTdSREDNE ON RIGHTdMALO POVYSHE ON RIGHT",
  "dPOVYSHE ON RIGHTdVYSOKO ON RIGHTdMALO POVYSHE S KHOKHLOM ON RIGHTdPOVYSHE S KHOKHLOM ON RIGHT",
  "dVYSOKO S KHOKHLOM ON RIGHTdTSATA S KRYZHEMdMALO POVYSHE S KRYZHEMdSTRANNO MALO POVYSHE",
  "dPOVYSHE S KRYZHEMeSTRANNOdVYSOKO S KRYZHEMdMALO POVYSHE STRANNOdGORAZDO VYSOKOdZELOdONdRAVNO",
  "dTIKHAYAdBORZAYAdUDARKAdPODVERTKAdLOMKAdKUPNAYAdKACHKAdZEVOKdSKOBAdRAZSEKAdKRYZH ON LEFT/1CF30",
  "cTONAL RANGE MARK MRACHNOfSVETLOfTRESVETLOcMARK ZADERZHKAdDEMESTVENNY ZADERZHKAdOTSECHKA",
  "dPODCHASHIEeWITH VERTICAL STROKEdCHASHKAePOLNAYAdOBLACHKOdSOROCHYA NOZHKAdTOCHKAdDVOETOCHIE",
  "cATTACHING VERTICAL OMETcMARK CURVED OMETdKRYZHcLOWER TONAL RANGE INDICATOR",
  "bPRIZNAK MODIFIER LEVEL-2dLEVEL-3dDIRECTION FLIPdKRYZHdROG/1CF50bNEUME KRYUKdTIKHYcPARAKLIT",
  "cDVA V CHELNUcKLYUCHcZANOZHEKcSTOPITSAdS OCHKOMcPEREVODKAdNEPOSTOYANNAYA",
  "cSTOPITSA WITH SOROCHYA NOZHKAcCHELYUSTKAcPALKAcZAPYATAYAcGOLUBCHIK BORZYdTIKHYdMRACHNYdSVETLY",
  "dTRESVETLYcVRAKHIYA PROSTAYAdMRACHNAYAdSVETLAYAdTRESVETLAYAdKLYUCHEVAYA PROSTAYAeMRACHNAYA",
  "eSVETLAYAeTRESVETLAYAcDOUBLE ZAPYATAYAcREVERSED CHELYUSTKAcDERBITSAcKHAMILOcCHASHKAcPODCHASHIE",
  "cSKAMEYTSA MRACHNAYAdSVETLAYAdTRESVETLAYAdTIKHAYAcDEMESTVENNY KLYUCH",
  "cSKAMEYTSA KLYUCHEVAYA SVETLAYAdKLYUCHENEPOSTOYANNAYAdKLYUCHEVAYA TIKHAYA",
  "dDVOECHELNAYA PROSTAYAeSVETLAYAeNEPOSTOYANNAYAeKLYUCHEVAYAcSLOZHITIEdS ZAPYATOYdZAKRYTOE",
  "dS KRYZHEMcKRYZHcROGcFITAcKOBYLAcZMEYTSAcSTATYAdS ZAPYATOYeKRYZHEMeZAPYATOY I KRYZHEM",
  "eKRYZHEM I ZAPYATOYdZAKRYTAYAeS ZAPYATOYdS ROGOMeDVUMYA ZAPYATYMIeZAPYATOY I PODCHASHIEM",
  "cPOLKULIZMYcSTATYA NEPOSTOYANNAYAcSTRELA PROSTAYAdMRACHNOTIKHAYAdKRYZHEVAYAdPOLUPOVODNAYA",
  "dPOVODNAYAdNEPOSTOYANNAYAdKLYUCHEPOVODNAYAdKLYUCHENEPOSTOYANNAYAdTIKHAYA PUTNAYAdDVOECHELNAYA",
  "dDVOECHELNOKRYZHEVAYAdDVOECHELNOPOVODNAYAdDVOECHELNAYA KLYUCHEVAYA",
  "dDVOECHELNOPOVODNAYA KLYUCHEVAYAdGROMNAYA WITH SINGLE ZAPYATAYA",
  "dGROMOPOVODNAYA WITH SINGLE ZAPYATAYAdGROMNAYAdGROMOPOVODNAYAeWITH DOUBLE ZAPYATAYA",
  "dGROMOKRYZHEVAYAePOVODNAYAcMECHIKdPOVODNYdKLYUCHEVOYdKLYUCHEPOVODNYdKLYUCHENEPOSTOYANNY",
  "cSTRELA TRYASOGLASNAYAdTRYASOPOVODNAYAdTRYASOSTRELNAYAcOSOKAdSVETLAYAdTRESVETLAYA",
  "dKRYUKOVAYA SVETLAYAdKLYUCHEVAYA SVETLAYAeNEPOSTOYANNAYAcSTRELA KRYUKOVAYAePOVODNAYA",
  "eGROMNAYA WITH SINGLE ZAPYATAYAeGROMOPOVODNAYA WITH SINGLE ZAPYATAYAeGROMNAYAeGROMOPOVODNAYA",
  "fWITH DOUBLE ZAPYATAYAeGROMOKRYZHEVAYAfPOVODNAYAeTRYASKAcKUFISMAcOBLAKOcDUDAcNEMKAcPAUK/1D000",
  "aBYZANTINE MUSICAL SYMBOL PSILIdDASEIAdPERISPOMENIdOXEIA EKFONITIKONeDIPLIdVAREIA EKFONITIKON",
  "eDIPLIdKATHISTIdSYRMATIKIdPARAKLITIKIdYPOKRISISeDIPLIdKREMASTIdAPESO EKFONITIKON",
  "dEXO EKFONITIKONdTELEIAdKENTIMATAdAPOSTROFOSeDIPLIdSYNEVMAdTHITAdOLIGON ARCHAION",
  "dGORGON ARCHAIONdPSILONdCHAMILONdVATHYdISON ARCHAIONdKENTIMA ARCHAIONdKENTIMATA ARCHAION",
  "dSAXIMATAdPARICHONdSTAVROS APODEXIAdOXEIAI ARCHAIONdVAREIAI ARCHAIONdAPODERMA ARCHAION",
  "dAPOTHEMAdKLASMAdREVMAdPIASMA ARCHAIONdTINAGMAdANATRICHISMAdSEISMAdSYNAGMA ARCHAION",
  "eMETA STAVROUdOYRANISMA ARCHAIONdTHEMAdLEMOIdDYOdTRIAdTESSERAdKRATIMATAdAPESO EXO NEO",
  "dFTHORA ARCHAIONdIMIFTHORAdTROMIKON ARCHAIONdKATAVA TROMIKONdPELASTONdPSIFISTONdKONTEVMA",
  "dCHOREVMA ARCHAIONdRAPISMAdPARAKALESMA ARCHAIONdPARAKLITIKI ARCHAIONdICHADINdNANAdPETASMA",
  "dKONTEVMA ALLOdTROMIKON ALLOdSTRAGGISMATAdGRONTHISMATAdISON NEOdOLIGON NEOdOXEIA NEOdPETASTI",
  "dKOUFISMAdPETASTOKOUFISMAdKRATIMOKOUFISMAdPELASTON NEOdKENTIMATA NEO ANOdKENTIMA NEO ANO",
  "dYPSILIdAPOSTROFOS NEOdAPOSTROFOI SYNDESMOS NEOdYPORROIdKRATIMOYPORROONdELAFRONdCHAMILI",
  "dMIKRON ISONdVAREIA NEOdPIASMA NEOdPSIFISTON NEOdOMALONdANTIKENOMAdLYGISMAdPARAKLITIKI NEO",
  "dPARAKALESMA NEOdETERON PARAKALESMAdKYLISMAdANTIKENOKYLISMAdTROMIKON NEOdEKSTREPTON",
  "dSYNAGMA NEOdSYRMAdCHOREVMA NEOdEPEGERMAdSEISMA NEOdXIRON KLASMAdTROMIKOPSIFISTON",
  "dPSIFISTOLYGISMAdTROMIKOLYGISMAdTROMIKOPARAKALESMAdPSIFISTOPARAKALESMAdTROMIKOSYNAGMA",
  "dPSIFISTOSYNAGMAdGORGOSYNTHETONdARGOSYNTHETONdETERON ARGOSYNTHETONdOYRANISMA NEO",
  "dTHEMATISMOS ESOeEXOdTHEMA APLOUNdTHES KAI APOTHESdKATAVASMAdENDOFONONdYFEN KATOeANOdSTAVROS",
  "dKLASMA ANOdDIPLI ARCHAIONdKRATIMA ARCHAIONeALLOeNEOdAPODERMA NEOdAPLIdDIPLIdTRIPLIdTETRAPLI",
  "dKORONISdLEIMMA ENOS CHRONOUeDYO CHRONONeTRION CHRONONeTESSARON CHRONONeIMISEOS CHRONOU",
  "dGORGON NEO ANOePARESTIGMENON ARISTERAfDEXIAdDIGORGONePARESTIGMENON ARISTERA KATOgANOfDEXIA",
  "dTRIGORGONdARGONdIMIDIARGONdDIARGONdAGOGI POLI ARGIeARGOTERIeARGIeMETRIAeMESIeGORGIeGORGOTERI",
  "ePOLI GORGIdMARTYRIA PROTOS ICHOSeALLI PROTOS ICHOSeDEYTEROS ICHOSeALLI DEYTEROS ICHOS",
  "eTRITOS ICHOSeTRIFONIASeTETARTOS ICHOSfLEGETOS ICHOSeLEGETOS ICHOSePLAGIOS ICHOS",
  "dISAKIA TELOUS ICHIMATOSdAPOSTROFOI TELOUS ICHIMATOSdFANEROSIS TETRAFONIASeMONOFONIASeDIFONIAS",
  "dMARTYRIA VARYS ICHOSePROTOVARYS ICHOSePLAGIOS TETARTOS ICHOSdGORTHMIKON N APLOUNfDIPLOUN",
  "dENARXIS KAI FTHORA VOUdIMIFONONdIMIFTHORONdFTHORA ARCHAION DEYTEROU ICHOUeDIATONIKI PAfNANA",
  "eNAOS ICHOSeDIATONIKI DIeSKLIRON DIATONON DIeDIATONIKI KEfZOfNI KATOgANO",
  "eMALAKON CHROMA DIFONIASgMONOFONIASdFHTORA SKLIRON CHROMA VASISdFTHORA SKLIRON CHROMA SYNAFI",
  "eNENANOdCHROA ZYGOSeKLITONeSPATHIdFTHORA I YFESIS TETARTIMORIONeENARMONIOS ANTIFONIA",
  "dYFESIS TRITIMORIONdDIESIS TRITIMORIONeTETARTIMORIONeAPLI DYO DODEKATA",
  "eMONOGRAMMOS TESSERA DODEKATAeDIGRAMMOS EX DODEKATAeTRIGRAMMOS OKTO DODEKATA",
  "dYFESIS APLI DYO DODEKATAeMONOGRAMMOS TESSERA DODEKATAeDIGRAMMOS EX DODEKATA",
  "eTRIGRAMMOS OKTO DODEKATAdGENIKI DIESISeYFESISdDIASTOLI APLI MIKRIfMEGALIeDIPLIeTHESEOS",
  "dSIMANSIS THESEOSfDISIMOUfTRISIMOUfTETRASIMOUeARSEOSfDISIMOUfTRISIMOUfTETRASIMOUdDIGRAMMA GG",
  "dDIFTOGGOS OUdSTIGMAdARKTIKO PAeVOUeGAeDIeKEeZOeNIdKENTIMATA NEO MESOdKENTIMA NEO MESO",
  "dKENTIMATA NEO KATOdKENTIMA NEO KATOdKLASMA KATOdGORGON NEO KATO/1D100",
  "aMUSICAL SYMBOL SINGLE BARLINEcDOUBLE BARLINEcFINAL BARLINEcREVERSE FINAL BARLINE",
  "cDASHED BARLINEcSHORT BARLINEcLEFT REPEAT SIGNcRIGHT REPEAT SIGNcREPEAT DOTScDAL SEGNOcDA CAPO",
  "cSEGNOcCODAcREPEATED FIGURE-1dFIGURE-2dFIGURE-3cFERMATAdBELOWcBREATH MARKcCAESURAcBRACE",
  "cBRACKETcONE-LINE STAFFcTWO-LINE STAFFcTHREE-LINE STAFFcFOUR-LINE STAFFcFIVE-LINE STAFF",
  "cSIX-LINE STAFFcSIX-STRING FRETBOARDcFOUR-STRING FRETBOARDcG CLEFeOTTAVA ALTAfBASSAcC CLEF",
  "cF CLEFeOTTAVA ALTAfBASSAcDRUM CLEF-1dCLEF-2/1D129cMULTIPLE MEASURE RESTcDOUBLE SHARPdFLAT",
  "cFLAT UPdDOWNcNATURAL UPdDOWNcSHARP UPdDOWNcQUARTER TONE SHARPeFLATcCOMMON TIMEcCUT TIME",
  "cOTTAVA ALTAdBASSAcQUINDICESIMA ALTAdBASSAcMULTI RESTcWHOLE RESTcHALF RESTcQUARTER REST",
  "cEIGHTH RESTcSIXTEENTH RESTcTHIRTY-SECOND RESTcSIXTY-FOURTH REST",
  "cONE HUNDRED TWENTY-EIGHTH RESTcX NOTEHEADcPLUS NOTEHEADcCIRCLE X NOTEHEAD",
  "cSQUARE NOTEHEAD WHITEeBLACKcTRIANGLE NOTEHEAD UP WHITEfBLACKeLEFT WHITEfBLACKeRIGHT WHITE",
  "fBLACKeDOWN WHITEfBLACKeUP RIGHT WHITEgBLACKcMOON NOTEHEAD WHITEeBLACK",
  "cTRIANGLE-ROUND NOTEHEAD DOWN WHITEfBLACKcPARENTHESIS NOTEHEADcVOID NOTEHEADcNOTEHEAD BLACK",
  "cNULL NOTEHEADcCLUSTER NOTEHEAD WHITEeBLACKcBREVEcWHOLE NOTEcHALF NOTEcQUARTER NOTE",
  "cEIGHTH NOTEcSIXTEENTH NOTEcTHIRTY-SECOND NOTEcSIXTY-FOURTH NOTE",
  "cONE HUNDRED TWENTY-EIGHTH NOTEcCOMBINING STEMdSPRECHGESANG STEMdTREMOLO-1dTREMOLO-2dTREMOLO-3",
  "cFINGERED TREMOLO-1dTREMOLO-2dTREMOLO-3cCOMBINING AUGMENTATION DOTdFLAG-1dFLAG-2dFLAG-3dFLAG-4",
  "dFLAG-5cBEGIN BEAMcEND BEAMcBEGIN TIEcEND TIEcBEGIN SLURcEND SLURcBEGIN PHRASEcEND PHRASE",
  "cCOMBINING ACCENTdSTACCATOdTENUTOdSTACCATISSIMOdMARCATOdMARCATO-STACCATOdACCENT-STACCATOdLOURE",
  "cARPEGGIATO UPdDOWNcCOMBINING DOITdRIPdFLIPdSMEARdBENDdDOUBLE TONGUEdTRIPLE TONGUEcRINFORZANDO",
  "cSUBITOcZcPIANOcMEZZOcFORTEcCRESCENDOcDECRESCENDOcGRACE NOTE SLASHeNO SLASHcTRcTURN",
  "cINVERTED TURNcTURN SLASHdUPcORNAMENT STROKE-1dSTROKE-2dSTROKE-3dSTROKE-4dSTROKE-5dSTROKE-6",
  "dSTROKE-7dSTROKE-8dSTROKE-9dSTROKE-10dSTROKE-11cHAUPTSTIMMEcNEBENSTIMMEcEND OF STIMME",
  "cDEGREE SLASHcCOMBINING DOWN BOWdUP BOWdHARMONICdSNAP PIZZICATOcPEDAL MARKdUP MARK",
  "cHALF PEDAL MARKcGLISSANDO UPdDOWNcWITH FINGERNAILScDAMPdALLcMAXIMAcLONGAcBREVIS",
  "cSEMIBREVIS WHITEdBLACKcMINIMAdBLACKcSEMIMINIMA WHITEdBLACKcFUSA WHITEdBLACK",
  "cLONGA PERFECTA RESTdIMPERFECTA RESTcBREVIS RESTcSEMIBREVIS RESTcMINIMA RESTcSEMIMINIMA REST",
  "cTEMPUS PERFECTUM CUM PROLATIONE PERFECTAgIMPERFECTAgPERFECTA DIMINUTION-1",
  "dIMPERFECTUM CUM PROLATIONE PERFECTAgIMPERFECTAhDIMINUTION-1hDIMINUTION-2hDIMINUTION-3cCROIX",
  "cGREGORIAN C CLEFdF CLEFcSQUARE BcVIRGAcPODATUScCLIVIScSCANDICUScCLIMACUScTORCULUScPORRECTUS",
  "dFLEXUScSCANDICUS FLEXUScTORCULUS RESUPINUScPES SUBPUNCTIScKIEVAN C CLEFdEND OF PIECE",
  "dFINAL NOTEdRECITATIVE MARKdWHOLE NOTEdHALF NOTEdQUARTER NOTE STEM DOWNgUP",
  "dEIGHTH NOTE STEM DOWNgUPdFLAT SIGNcSORIcKORON/1D200aGREEK VOCAL NOTATION SYMBOL-1dSYMBOL-2",
  "dSYMBOL-3dSYMBOL-4dSYMBOL-5dSYMBOL-6dSYMBOL-7dSYMBOL-8dSYMBOL-9dSYMBOL-10dSYMBOL-11dSYMBOL-12",
  "dSYMBOL-13dSYMBOL-14dSYMBOL-15dSYMBOL-16dSYMBOL-17dSYMBOL-18dSYMBOL-19dSYMBOL-20dSYMBOL-21",
  "dSYMBOL-22dSYMBOL-23dSYMBOL-24dSYMBOL-50dSYMBOL-51dSYMBOL-52dSYMBOL-53dSYMBOL-54",
  "bINSTRUMENTAL NOTATION SYMBOL-1dSYMBOL-2dSYMBOL-4dSYMBOL-5dSYMBOL-7dSYMBOL-8dSYMBOL-11",
  "dSYMBOL-12dSYMBOL-13dSYMBOL-14dSYMBOL-17dSYMBOL-18dSYMBOL-19dSYMBOL-23dSYMBOL-24dSYMBOL-25",
  "dSYMBOL-26dSYMBOL-27dSYMBOL-29dSYMBOL-30dSYMBOL-32dSYMBOL-36dSYMBOL-37dSYMBOL-38dSYMBOL-39",
  "dSYMBOL-40dSYMBOL-42dSYMBOL-43dSYMBOL-45dSYMBOL-47dSYMBOL-48dSYMBOL-49dSYMBOL-50dSYMBOL-51",
  "dSYMBOL-52dSYMBOL-53dSYMBOL-54aCOMBINING GREEK MUSICAL TRISEMEdTETRASEMEdPENTASEME",
  "aGREEK MUSICAL LEIMMA/1D2C0aKAKTOVIK NUMERAL ZEROcONEcTWOcTHREEcFOURcFIVEcSIXcSEVENcEIGHTcNINE",
  "cTENcELEVENcTWELVEcTHIRTEENcFOURTEENcFIFTEENcSIXTEENcSEVENTEENcEIGHTEENcNINETEEN/1D2E0",
  "aMAYAN NUMERAL ZEROcONEcTWOcTHREEcFOURcFIVEcSIXcSEVENcEIGHTcNINEcTENcELEVENcTWELVEcTHIRTEEN",
  "cFOURTEENcFIFTEENcSIXTEENcSEVENTEENcEIGHTEENcNINETEEN/1D300aMONOGRAM FOR EARTH",
  "aDIGRAM FOR HEAVENLY EARTHcHUMAN EARTHcEARTHLY HEAVENdHUMANcEARTHaTETRAGRAM FOR CENTRE",
  "cFULL CIRCLEcMIREDcBARRIERcKEEPING SMALLcCONTRARIETYcASCENTcOPPOSITIONcBRANCHING OUT",
  "cDEFECTIVENESS OR DISTORTIONcDIVERGENCEcYOUTHFULNESScINCREASEcPENETRATIONcREACHcCONTACT",
  "cHOLDING BACKcWAITINGcFOLLOWINGcADVANCEcRELEASEcRESISTANCEcEASEcJOYcCONTENTIONcENDEAVOUR",
  "cDUTIEScCHANGEcDECISIVENESScBOLD RESOLUTIONcPACKINGcLEGIONcCLOSENESScKINSHIPcGATHERING",
  "cSTRENGTHcPURITYcFULLNESScRESIDENCEcLAW OR MODELcRESPONSEcGOING TO MEETcENCOUNTERScSTOVE",
  "cGREATNESScENLARGEMENTcPATTERNcRITUALcFLIGHTcVASTNESS OR WASTINGcCONSTANCYcMEASUREcETERNITY",
  "cUNITYcDIMINISHMENTcCLOSED MOUTHcGUARDEDNESScGATHERING INcMASSINGcACCUMULATIONcEMBELLISHMENT",
  "cDOUBTcWATCHcSINKINGcINNERcDEPARTUREcDARKENINGcDIMMINGcEXHAUSTIONcSEVERANCEcSTOPPAGEcHARDNESS",
  "cCOMPLETIONcCLOSUREcFAILUREcAGGRAVATIONcCOMPLIANCEcON THE VERGEcDIFFICULTIEScLABOURING",
  "cFOSTERING/1D360aCOUNTING ROD UNIT DIGIT ONEeTWOeTHREEeFOUReFIVEeSIXeSEVENeEIGHTeNINE",
  "cTENS DIGIT ONEeTWOeTHREEeFOUReFIVEeSIXeSEVENeEIGHTeNINEaIDEOGRAPHIC TALLY MARK ONEdTWOdTHREE",
  "dFOURdFIVEaTALLY MARK ONEcFIVE/1D400aMATHEMATICAL BOLD CAPITAL AdBdCdDdEdFdGdHdIdJdKdLdMdNdOdP",
  "dQdRdSdTdUdVdWdXdYdZcSMALL AdBdCdDdEdFdGdHdIdJdKdLdMdNdOdPdQdRdSdTdUdVdWdXdYdZ",
  "bITALIC CAPITAL AdBdCdDdEdFdGdHdIdJdKdLdMdNdOdPdQdRdSdTdUdVdWdXdYdZcSMALL AdBdCdDdEdFdG/1D456",
  "dIdJdKdLdMdNdOdPdQdRdSdTdUdVdWdXdYdZbBOLD ITALIC CAPITAL AeBeCeDeEeFeGeHeIeJeKeLeMeNeOePeQeReS",
  "eTeUeVeWeXeYeZdSMALL AeBeCeDeEeFeGeHeIeJeKeLeMeNeOePeQeReSeTeUeVeWeXeYeZbSCRIPT CAPITAL A",
  "/1D49EdCdD/1D4A2dG/1D4A5dJdK/1D4A9dNdOdPdQ/1D4AEdSdTdUdVdWdXdYdZcSMALL AdBdCdD/1D4BBdF/1D4BDdH",
  "dIdJdKdLdMdN/1D4C5dPdQdRdSdTdUdVdWdXdYdZbBOLD SCRIPT CAPITAL AeBeCeDeEeFeGeHeIeJeKeLeMeNeOePeQ",
  "eReSeTeUeVeWeXeYeZdSMALL AeBeCeDeEeFeGeHeIeJeKeLeMeNeOePeQeReSeTeUeVeWeXeYeZbFRAKTUR CAPITAL A",
  "dB/1D507dDdEdFdG/1D50DdJdKdLdMdNdOdPdQ/1D516dSdTdUdVdWdXdY/1D51EcSMALL AdBdCdDdEdFdGdHdIdJdKdL",
  "dMdNdOdPdQdRdSdTdUdVdWdXdYdZbDOUBLE-STRUCK CAPITAL AdB/1D53BdDdEdFdG/1D540dIdJdKdLdM/1D546dO",
  "/1D54AdSdTdUdVdWdXdY/1D552cSMALL AdBdCdDdEdFdGdHdIdJdKdLdMdNdOdPdQdRdSdTdUdVdWdXdYdZ",
  "bBOLD FRAKTUR CAPITAL AeBeCeDeEeFeGeHeIeJeKeLeMeNeOePeQeReSeTeUeVeWeXeYeZdSMALL AeBeCeDeEeFeG",
  "eHeIeJeKeLeMeNeOePeQeReSeTeUeVeWeXeYeZbSANS-SERIF CAPITAL AdBdCdDdEdFdGdHdIdJdKdLdMdNdOdPdQdR",
  "dSdTdUdVdWdXdYdZcSMALL AdBdCdDdEdFdGdHdIdJdKdLdMdNdOdPdQdRdSdTdUdVdWdXdYdZcBOLD CAPITAL AeBeC",
  "eDeEeFeGeHeIeJeKeLeMeNeOePeQeReSeTeUeVeWeXeYeZdSMALL AeBeCeDeEeFeGeHeIeJeKeLeMeNeOePeQeReSeTeU",
  "eVeWeXeYeZcITALIC CAPITAL AeBeCeDeEeFeGeHeIeJeKeLeMeNeOePeQeReSeTeUeVeWeXeYeZdSMALL AeBeCeDeE",
  "eFeGeHeIeJeKeLeMeNeOePeQeReSeTeUeVeWeXeYeZcBOLD ITALIC CAPITAL AfBfCfDfEfFfGfHfIfJfKfLfMfNfOfP",
  "fQfRfSfTfUfVfWfXfYfZeSMALL AfBfCfDfEfFfGfHfIfJfKfLfMfNfOfPfQfRfSfTfUfVfWfXfYfZ",
  "bMONOSPACE CAPITAL AdBdCdDdEdFdGdHdIdJdKdLdMdNdOdPdQdRdSdTdUdVdWdXdYdZcSMALL AdBdCdDdEdFdGdHdI",
  "dJdKdLdMdNdOdPdQdRdSdTdUdVdWdXdYdZbITALIC SMALL DOTLESS IeJ/1D6A8bBOLD CAPITAL ALPHAdBETA",
  "dGAMMAdDELTAdEPSILONdZETAdETAdTHETAdIOTAdKAPPAdLAMDAdMUdNUdXIdOMICRONdPIdRHOdTHETA SYMBOL",
  "dSIGMAdTAUdUPSILONdPHIdCHIdPSIdOMEGAcNABLAcSMALL ALPHAdBETAdGAMMAdDELTAdEPSILONdZETAdETAdTHETA",
  "dIOTAdKAPPAdLAMDAdMUdNUdXIdOMICRONdPIdRHOdFINAL SIGMAdSIGMAdTAUdUPSILONdPHIdCHIdPSIdOMEGA",
  "cPARTIAL DIFFERENTIALcEPSILON SYMBOLcTHETA SYMBOLcKAPPA SYMBOLcPHI SYMBOLcRHO SYMBOLcPI SYMBOL",
  "bITALIC CAPITAL ALPHAdBETAdGAMMAdDELTAdEPSILONdZETAdETAdTHETAdIOTAdKAPPAdLAMDAdMUdNUdXI",
  "dOMICRONdPIdRHOdTHETA SYMBOLdSIGMAdTAUdUPSILONdPHIdCHIdPSIdOMEGAcNABLAcSMALL ALPHAdBETAdGAMMA",
  "dDELTAdEPSILONdZETAdETAdTHETAdIOTAdKAPPAdLAMDAdMUdNUdXIdOMICRONdPIdRHOdFINAL SIGMAdSIGMAdTAU",
  "dUPSILONdPHIdCHIdPSIdOMEGAcPARTIAL DIFFERENTIALcEPSILON SYMBOLcTHETA SYMBOLcKAPPA SYMBOL",
  "cPHI SYMBOLcRHO SYMBOLcPI SYMBOLbBOLD ITALIC CAPITAL ALPHAeBETAeGAMMAeDELTAeEPSILONeZETAeETA",
  "eTHETAeIOTAeKAPPAeLAMDAeMUeNUeXIeOMICRONePIeRHOeTHETA SYMBOLeSIGMAeTAUeUPSILONePHIeCHIePSI",
  "eOMEGAdNABLAdSMALL ALPHAeBETAeGAMMAeDELTAeEPSILONeZETAeETAeTHETAeIOTAeKAPPAeLAMDAeMUeNUeXI",
  "eOMICRONePIeRHOeFINAL SIGMAeSIGMAeTAUeUPSILONePHIeCHIePSIeOMEGAdPARTIAL DIFFERENTIAL",
  "dEPSILON SYMBOLdTHETA SYMBOLdKAPPA SYMBOLdPHI SYMBOLdRHO SYMBOLdPI SYMBOL",
  "bSANS-SERIF BOLD CAPITAL ALPHAeBETAeGAMMAeDELTAeEPSILONeZETAeETAeTHETAeIOTAeKAPPAeLAMDAeMUeNU",
  "eXIeOMICRONePIeRHOeTHETA SYMBOLeSIGMAeTAUeUPSILONePHIeCHIePSIeOMEGAdNABLAdSMALL ALPHAeBETA",
  "eGAMMAeDELTAeEPSILONeZETAeETAeTHETAeIOTAeKAPPAeLAMDAeMUeNUeXIeOMICRONePIeRHOeFINAL SIGMAeSIGMA",
  "eTAUeUPSILONePHIeCHIePSIeOMEGAdPARTIAL DIFFERENTIALdEPSILON SYMBOLdTHETA SYMBOLdKAPPA SYMBOL",
  "dPHI SYMBOLdRHO SYMBOLdPI SYMBOLdITALIC CAPITAL ALPHAfBETAfGAMMAfDELTAfEPSILONfZETAfETAfTHETA",
  "fIOTAfKAPPAfLAMDAfMUfNUfXIfOMICRONfPIfRHOfTHETA SYMBOLfSIGMAfTAUfUPSILONfPHIfCHIfPSIfOMEGA",
  "eNABLAeSMALL ALPHAfBETAfGAMMAfDELTAfEPSILONfZETAfETAfTHETAfIOTAfKAPPAfLAMDAfMUfNUfXIfOMICRON",
  "fPIfRHOfFINAL SIGMAfSIGMAfTAUfUPSILONfPHIfCHIfPSIfOMEGAePARTIAL DIFFERENTIALeEPSILON SYMBOL",
  "eTHETA SYMBOLeKAPPA SYMBOLePHI SYMBOLeRHO SYMBOLePI SYMBOLbBOLD CAPITAL DIGAMMAcSMALL DIGAMMA",
  "/1D7CEcDIGIT ZEROdONEdTWOdTHREEdFOURdFIVEdSIXdSEVENdEIGHTdNINEbDOUBLE-STRUCK DIGIT ZEROdONE",
  "dTWOdTHREEdFOURdFIVEdSIXdSEVENdEIGHTdNINEbSANS-SERIF DIGIT ZEROdONEdTWOdTHREEdFOURdFIVEdSIX",
  "dSEVENdEIGHTdNINEcBOLD DIGIT ZEROeONEeTWOeTHREEeFOUReFIVEeSIXeSEVENeEIGHTeNINE",
  "bMONOSPACE DIGIT ZEROdONEdTWOdTHREEdFOURdFIVEdSIXdSEVENdEIGHTdNINEaSIGNWRITING HAND-FIST INDEX",
  "bHAND-CIRCLE INDEXbHAND-CUP INDEXbHAND-OVAL INDEXbHAND-HINGE INDEXbHAND-ANGLE INDEX",
  "bHAND-FIST INDEX BENTbHAND-CIRCLE INDEX BENTbHAND-FIST THUMB UNDER INDEX BENT",
  "cINDEX RAISED KNUCKLEdCUPPEDdHINGEDeLOWbHAND-CIRCLE INDEX HINGEbHAND-FIST INDEX MIDDLE",
  "bHAND-CIRCLE INDEX MIDDLEbHAND-FIST INDEX MIDDLE BENTeRAISED KNUCKLESeHINGEDdUP MIDDLE HINGED",
  "dHINGED MIDDLE UPdMIDDLE CONJOINEDfINDEX BENTfMIDDLE BENTfCUPPEDfHINGEDeCROSSED",
  "bHAND-CIRCLE INDEX MIDDLE CROSSEDbHAND-FIST MIDDLE BENT OVER INDEXcINDEX BENT OVER MIDDLE",
  "dMIDDLE THUMBbHAND-CIRCLE INDEX MIDDLE THUMBbHAND-FIST INDEX MIDDLE STRAIGHT THUMB BENT",
  "eBENT THUMB STRAIGHTeTHUMB BENTeHINGED SPREAD THUMB SIDEdUP MIDDLE HINGED THUMB SIDEhCONJOINED",
  "dHINGED MIDDLE UP THUMB SIDEdMIDDLE UP SPREAD THUMB FORWARDeTHUMB CUPPEDfCIRCLEDfHOOKEDfHINGED",
  "cTHUMB BETWEEN INDEX MIDDLE STRAIGHTcINDEX MIDDLE CONJOINED THUMB SIDEhCONJOINEDhBENT",
  "cMIDDLE THUMB HOOKED INDEX UPcINDEX THUMB HOOKED MIDDLE UPdMIDDLE CONJOINED HINGED THUMB SIDE",
  "eCROSSED THUMB SIDEeCONJOINED THUMB FORWARDfCUPPED THUMB FORWARDcMIDDLE THUMB CUPPED INDEX UP",
  "cINDEX THUMB CUPPED MIDDLE UPcMIDDLE THUMB CIRCLED INDEX UPgHINGED",
  "cINDEX THUMB ANGLED OUT MIDDLE UPfIN MIDDLE UPeCIRCLED MIDDLE UPdMIDDLE THUMB CONJOINED HINGED",
  "fANGLED OUTfANGLEDcMIDDLE THUMB ANGLED OUT INDEX UPhCROSSEDfINDEX UP",
  "cINDEX THUMB HOOKED MIDDLE HINGEDbHAND-FLAT FOUR FINGERSeBENTeHINGEDeCONJOINEDfSPLIT",
  "bHAND-CLAW FOUR FINGERS CONJOINEDbHAND-FIST FOUR FINGERS CONJOINED BENT",
  "bHAND-HINGE FOUR FINGERS CONJOINEDbHAND-FLAT FIVE FINGERS SPREADcHEEL FIVE FINGERS SPREAD",
  "cFIVE FINGERS SPREAD FOUR BENTcHEEL FIVE FINGERS SPREAD FOUR BENTcFIVE FINGERS SPREAD BENT",
  "cHEEL FIVE FINGERS SPREAD BENTcFIVE FINGERS SPREAD THUMB FORWARDbHAND-CUP FIVE FINGERS SPREAD",
  "fOPENbHAND-HINGE FIVE FINGERS SPREAD OPENbHAND-OVAL FIVE FINGERS SPREAD",
  "bHAND-FLAT FIVE FINGERS SPREAD HINGEDgTHUMB SIDEgNO THUMBbHAND-FLATcBETWEEN PALM FACINGScHEEL",
  "cTHUMB SIDEcHEEL THUMB SIDEcTHUMB BENTdFORWARDcSPLIT INDEX THUMB SIDEdCENTREeTHUMB SIDEgBENT",
  "dLITTLEbHAND-CLAWcTHUMB SIDEcNO THUMBcTHUMB FORWARDbHAND-HOOK CURLICUEbHAND-HOOKbHAND-CUP OPEN",
  "bHAND-CUPcOPEN THUMB SIDEcTHUMB SIDEcOPEN NO THUMBcNO THUMBcOPEN THUMB FORWARDcTHUMB FORWARD",
  "bHAND-CURLICUE OPENbHAND-CURLICUEbHAND-CIRCLEbHAND-OVALcTHUMB SIDEcNO THUMBcTHUMB FORWARD",
  "bHAND-HINGE OPENdTHUMB FORWARDbHAND-HINGEcSMALLcOPEN THUMB SIDEcTHUMB SIDEcOPEN NO THUMB",
  "cNO THUMBcTHUMB SIDE TOUCHING INDEXdBETWEEN MIDDLE RINGbHAND-ANGLEbHAND-FIST INDEX MIDDLE RING",
  "bHAND-CIRCLE INDEX MIDDLE RINGbHAND-HINGE INDEX MIDDLE RINGbHAND-ANGLE INDEX MIDDLE RING",
  "bHAND-HINGE LITTLEbHAND-FIST INDEX MIDDLE RING BENTfCONJOINED",
  "bHAND-HINGE INDEX MIDDLE RING CONJOINEDbHAND-FIST LITTLE DOWNeRIPPLE STRAIGHTfCURVED",
  "eOTHERS CIRCLEDdUPcTHUMB UNDER LITTLE UPbHAND-CIRCLE LITTLE UPbHAND-OVAL LITTLE UP",
  "bHAND-ANGLE LITTLE UPbHAND-FIST LITTLE RAISED KNUCKLEdBENTdTOUCHES THUMBdTHUMB",
  "bHAND-HINGE LITTLE THUMBbHAND-FIST LITTLE INDEX THUMBbHAND-HINGE LITTLE INDEX THUMB",
  "bHAND-ANGLE LITTLE INDEX THUMB INDEX THUMB OUTgTHUMBbHAND-FIST LITTLE INDEX",
  "bHAND-CIRCLE LITTLE INDEXbHAND-HINGE LITTLE INDEXbHAND-ANGLE LITTLE INDEX",
  "bHAND-FIST INDEX MIDDLE LITTLEbHAND-CIRCLE INDEX MIDDLE LITTLEbHAND-HINGE INDEX MIDDLE LITTLE",
  "cRINGbHAND-ANGLE INDEX MIDDLE LITTLEbHAND-FIST INDEX MIDDLE CROSS LITTLE",
  "bHAND-CIRCLE INDEX MIDDLE CROSS LITTLEbHAND-FIST RING DOWN",
  "bHAND-HINGE RING DOWN INDEX THUMB HOOK MIDDLEbHAND-ANGLE RING DOWN MIDDLE THUMB INDEX CROSS",
  "bHAND-FIST RING UPdRAISED KNUCKLEdLITTLEbHAND-CIRCLE RING LITTLEbHAND-OVAL RING LITTLE",
  "bHAND-ANGLE RING LITTLEbHAND-FIST RING MIDDLEeCONJOINEDeRAISED KNUCKLESdINDEXdTHUMB",
  "bHAND-HOOK RING THUMBbHAND-FIST INDEX RING LITTLEbHAND-CIRCLE INDEX RING LITTLE",
  "bHAND-CURLICUE INDEX RING LITTLE ONbHAND-HOOK INDEX RING LITTLE OUTfINfUNDER",
  "bHAND-CUP INDEX RING LITTLEbHAND-HINGE INDEX RING LITTLEbHAND-ANGLE INDEX RING LITTLE OUT",
  "eLITTLEbHAND-FIST MIDDLE DOWNbHAND-HINGE MIDDLEbHAND-FIST MIDDLE UPbHAND-CIRCLE MIDDLE UP",
  "bHAND-FIST MIDDLE RAISED KNUCKLEdUP THUMB SIDEbHAND-HOOK MIDDLE THUMB",
  "bHAND-FIST MIDDLE THUMB LITTLEdLITTLEdRING LITTLEbHAND-CIRCLE MIDDLE RING LITTLE",
  "bHAND-CURLICUE MIDDLE RING LITTLE ONbHAND-CUP MIDDLE RING LITTLEbHAND-HINGE MIDDLE RING LITTLE",
  "bHAND-ANGLE MIDDLE RING LITTLE OUTfINeLITTLEbHAND-CIRCLE MIDDLE RING LITTLE BENT",
  "bHAND-CLAW MIDDLE RING LITTLE CONJOINEDgSIDEbHAND-HOOK MIDDLE RING LITTLE CONJOINED OUTgIN",
  "fCONJOINEDbHAND-HINGE INDEX HINGEDbHAND-FIST INDEX THUMB SIDEbHAND-HINGE INDEX THUMB SIDE",
  "bHAND-FIST INDEX THUMB SIDE THUMB DIAGONALgCONJOINEDgBENTfINDEX BENTfBOTH BENTfINDEX HINGE",
  "eFORWARD INDEX STRAIGHTgBENTeHOOKeCURLICUEeCURVE THUMB INSIDE",
  "bHAND-CLAW INDEX THUMB CURVE THUMB INSIDEbHAND-FIST INDEX THUMB CURVE THUMB UNDEReCIRCLE",
  "bHAND-CUP INDEX THUMBeOPENbHAND-HINGE INDEX THUMB OPENeLARGEdTHUMBeSMALL",
  "bHAND-ANGLE INDEX THUMB OUTeINdTHUMBbHAND-FIST THUMBdHEELdSIDE DIAGONALeCONJOINEDeBENTdFORWARD",
  "dBETWEEN INDEX MIDDLEeMIDDLE RINGeRING LITTLEdUNDER TWO FINGERSdOVER TWO FINGERS",
  "dUNDER THREE FINGERSeFOUR FINGERSdOVER FOUR RAISED KNUCKLESbHAND-FISTcHEELbTOUCH SINGLE",
  "cMULTIPLEcBETWEENbGRASP SINGLEcMULTIPLEcBETWEENbSTRIKE SINGLEcMULTIPLEcBETWEENbBRUSH SINGLE",
  "cMULTIPLEcBETWEENbRUB SINGLEcMULTIPLEcBETWEENbSURFACE SYMBOLScBETWEENbSQUEEZE LARGE SINGLE",
  "cSMALL SINGLEcLARGE MULTIPLEcSMALL MULTIPLEcSEQUENTIALbFLICK LARGE SINGLEcSMALL SINGLE",
  "cLARGE MULTIPLEcSMALL MULTIPLEcSEQUENTIALbSQUEEZE FLICK ALTERNATING",
  "bMOVEMENT-HINGE UP DOWN LARGEeSMALLdSEQUENTIALcDOWN SEQUENTIALcUP DOWN ALTERNATING LARGEfSMALL",
  "cSIDE TO SIDE SCISSORSbMOVEMENT-WALLPLANE FINGER CONTACTbMOVEMENT-FLOORPLANE FINGER CONTACT",
  "bMOVEMENT-WALLPLANE SINGLE STRAIGHT SMALLeMEDIUMeLARGEeLARGESTdWRIST FLEXcDOUBLE STRAIGHT",
  "dWRIST FLEXdALTERNATINGeWRIST FLEXcCROSScTRIPLE STRAIGHT MOVEMENTdWRIST FLEXdALTERNATING",
  "eWRIST FLEXcBEND SMALLdMEDIUMdLARGEcCORNER SMALLdMEDIUMdLARGEdROTATIONcCHECK SMALLdMEDIUM",
  "dLARGEcBOX SMALLdMEDIUMdLARGEcZIGZAG SMALLdMEDIUMdLARGEcPEAKS SMALLdMEDIUMdLARGE",
  "bTRAVEL-WALLPLANE ROTATION-WALLPLANE SINGLEdDOUBLEdALTERNATINGcROTATION-FLOORPLANE SINGLE",
  "dDOUBLEdALTERNATINGcSHAKINGcARM SPIRAL SINGLEeDOUBLEeTRIPLEbMOVEMENT-DIAGONAL AWAY SMALL",
  "dMEDIUMdLARGEdLARGESTcTOWARDS SMALLdMEDIUMdLARGEdLARGESTcBETWEEN AWAY SMALLeMEDIUMeLARGE",
  "eLARGESTdTOWARDS SMALLeMEDIUMeLARGEeLARGESTbMOVEMENT-FLOORPLANE SINGLE STRAIGHT SMALLeMEDIUM",
  "eLARGEeLARGESTdWRIST FLEXcDOUBLE STRAIGHTdWRIST FLEXdALTERNATINGeWRIST FLEXcCROSS",
  "cTRIPLE STRAIGHT MOVEMENTdWRIST FLEXdALTERNATING MOVEMENTeWRIST FLEXcBENDcCORNER SMALLdMEDIUM",
  "dLARGEcCHECKcBOX SMALLdMEDIUMdLARGEcZIGZAG SMALLdMEDIUMdLARGEcPEAKS SMALLdMEDIUMdLARGE",
  "bTRAVEL-FLOORPLANE ROTATION-FLOORPLANE SINGLEdDOUBLEdALTERNATINGcROTATION-WALLPLANE SINGLE",
  "dDOUBLEdALTERNATINGcSHAKINGbMOVEMENT-WALLPLANE CURVE QUARTER SMALLeMEDIUMeLARGEeLARGEST",
  "dHALF-CIRCLE SMALLeMEDIUMeLARGEeLARGESTdTHREE-QUARTER CIRCLE SMALLfMEDIUMcHUMP SMALLdMEDIUM",
  "dLARGEcLOOP SMALLdMEDIUMdLARGEdSMALL DOUBLEcWAVE CURVE DOUBLE SMALLfMEDIUMfLARGEeTRIPLE SMALL",
  "fMEDIUMfLARGEcCURVE THEN STRAIGHTcCURVED CROSS SMALLeMEDIUMbROTATION-WALLPLANE SINGLEcDOUBLE",
  "cALTERNATEbMOVEMENT-WALLPLANE SHAKINGcCURVE HITTING FRONT WALLcHUMP HITTING FRONT WALL",
  "cLOOP HITTING FRONT WALLcWAVE HITTING FRONT WALLbROTATION-WALLPLANE SINGLE HITTING FRONT WALL",
  "cDOUBLE HITTING FRONT WALLcALTERNATING HITTING FRONT WALL",
  "bMOVEMENT-WALLPLANE CURVE HITTING CHESTcHUMP HITTING CHESTcLOOP HITTING CHEST",
  "cWAVE HITTING CHESTbROTATION-WALLPLANE SINGLE HITTING CHESTcDOUBLE HITTING CHEST",
  "cALTERNATING HITTING CHESTbMOVEMENT-WALLPLANE WAVE DIAGONAL PATH SMALLfMEDIUMfLARGE",
  "bMOVEMENT-FLOORPLANE CURVE HITTING CEILING SMALLfLARGEcHUMP HITTING CEILING SMALL DOUBLE",
  "fLARGE DOUBLEfSMALL TRIPLEfLARGE TRIPLEcLOOP HITTING CEILING SMALL SINGLEfLARGE SINGLE",
  "fSMALL DOUBLEfLARGE DOUBLEcWAVE HITTING CEILING SMALLfLARGE",
  "bROTATION-FLOORPLANE SINGLE HITTING CEILINGcDOUBLE HITTING CEILINGcALTERNATING HITTING CEILING",
  "bMOVEMENT-FLOORPLANE CURVE HITTING FLOOR SMALLfLARGEcHUMP HITTING FLOOR SMALL DOUBLE",
  "fLARGE DOUBLEfTRIPLE SMALL TRIPLEgLARGE TRIPLEcLOOP HITTING FLOOR SMALL SINGLEfLARGE SINGLE",
  "fSMALL DOUBLEfLARGE DOUBLEcWAVE HITTING FLOOR SMALLfLARGE",
  "bROTATION-FLOORPLANE SINGLE HITTING FLOORcDOUBLE HITTING FLOORcALTERNATING HITTING FLOOR",
  "bMOVEMENT-FLOORPLANE CURVE SMALLdMEDIUMdLARGEdLARGESTdCOMBINEDcHUMP SMALLcLOOP SMALL",
  "cWAVE SNAKEdSMALLdLARGEbROTATION-FLOORPLANE SINGLEcDOUBLEcALTERNATING",
  "bMOVEMENT-FLOORPLANE SHAKING PARALLELbMOVEMENT-WALLPLANE ARM CIRCLE SMALL SINGLEeMEDIUM SINGLE",
  "eSMALL DOUBLEeMEDIUM DOUBLEbMOVEMENT-FLOORPLANE ARM CIRCLE HITTING WALL SMALL SINGLE",
  "gMEDIUM SINGLEgLARGE SINGLEgSMALL DOUBLEgMEDIUM DOUBLEgLARGE DOUBLE",
  "bMOVEMENT-WALLPLANE WRIST CIRCLE FRONT SINGLEfDOUBLE",
  "bMOVEMENT-FLOORPLANE WRIST CIRCLE HITTING WALL SINGLEgDOUBLE",
  "bMOVEMENT-WALLPLANE FINGER CIRCLES SINGLEeDOUBLE",
  "bMOVEMENT-FLOORPLANE FINGER CIRCLES HITTING WALL SINGLEgDOUBLEbDYNAMIC ARROWHEAD SMALLdLARGE",
  "cFASTcSLOWcTENSEcRELAXEDcSIMULTANEOUSdALTERNATINGcEVERY OTHER TIMEcGRADUALbHEADcRIM",
  "cMOVEMENT-WALLPLANE STRAIGHTdTILTcMOVEMENT-FLOORPLANE STRAIGHTcMOVEMENT-WALLPLANE CURVE",
  "cMOVEMENT-FLOORPLANE CURVEcMOVEMENT CIRCLEbFACE DIRECTION POSITION NOSE FORWARD TILTING",
  "fUP OR DOWNiTILTINGbEYEBROWS STRAIGHT UPdNEUTRALdDOWNbDREAMY EYEBROWS NEUTRAL DOWN",
  "dDOWN NEUTRALdUP NEUTRALdNEUTRAL UPbFOREHEAD NEUTRALcCONTACTcWRINKLEDbEYES OPENcSQUEEZED",
  "cCLOSEDbEYE BLINK SINGLEdMULTIPLEbEYES HALF OPENcWIDE OPENcHALF CLOSEDcWIDENING MOVEMENT",
  "bEYE WINKbEYELASHES UPcDOWNcFLUTTERINGbEYEGAZE-WALLPLANE STRAIGHTdDOUBLEdALTERNATING",
  "bEYEGAZE-FLOORPLANE STRAIGHTdDOUBLEdALTERNATINGbEYEGAZE-WALLPLANE CURVED",
  "bEYEGAZE-FLOORPLANE CURVEDbEYEGAZE-WALLPLANE CIRCLINGbCHEEKS PUFFEDcNEUTRALcSUCKED",
  "bTENSE CHEEKS HIGHdMIDDLEdLOWbEARSbNOSE NEUTRALcCONTACTcWRINKLEScWIGGLESbAIR BLOWING OUT",
  "cSUCKING INcBLOW SMALL ROTATIONScSUCK SMALL ROTATIONSbBREATH INHALEcEXHALE",
  "bMOUTH CLOSED NEUTRALdFORWARDdCONTACTcSMILEdWRINKLEDdOPENcFROWNdWRINKLEDdOPENcOPEN CIRCLE",
  "dFORWARDdWRINKLEDdOVALeWRINKLEDeYAWNdRECTANGLEeWRINKLEDeYAWNcKISSdFORWARDdWRINKLEDcTENSE",
  "dFORWARDdSUCKEDbLIPS PRESSED TOGETHERbLIP LOWER OVER UPPERcUPPER OVER LOWERbMOUTH CORNERS",
  "cWRINKLES SINGLEdDOUBLEbTONGUE STICKING OUT FARcLICKING LIPScTIP BETWEEN LIPS",
  "dTOUCHING INSIDE MOUTHcINSIDE MOUTH RELAXEDcMOVES AGAINST CHEEKcCENTRE STICKING OUT",
  "dINSIDE MOUTHbTEETHcMOVEMENTcON TONGUEeMOVEMENTdLIPSeMOVEMENTcBITE LIPSbMOVEMENT-WALLPLANE JAW",
  "bMOVEMENT-FLOORPLANE JAWbNECKbHAIRbEXCITEMENTbSHOULDER HIP SPINEdPOSITIONS",
  "bWALLPLANE SHOULDER HIP MOVEbFLOORPLANE SHOULDER HIP MOVEbSHOULDER TILTING FROM WAIST",
  "bTORSO-WALLPLANE STRAIGHT STRETCHcCURVED BENDbTORSO-FLOORPLANE TWISTING",
  "bUPPER BODY TILTING FROM HIP JOINTSbLIMB COMBINATIONcLENGTH-1cLENGTH-2cLENGTH-3cLENGTH-4",
  "cLENGTH-5cLENGTH-6cLENGTH-7bFINGERbLOCATION-WALLPLANE SPACEbLOCATION-FLOORPLANE SPACE",
  "bLOCATION HEIGHTcWIDTHcDEPTHcHEAD NECKcTORSOcLIMBS DIGITSbCOMMAbFULL STOPbSEMICOLONbCOLON",
  "bPARENTHESIS/1DA9BbFILL MODIFIER-2cMODIFIER-3cMODIFIER-4cMODIFIER-5cMODIFIER-6/1DAA1",
  "bROTATION MODIFIER-2cMODIFIER-3cMODIFIER-4cMODIFIER-5cMODIFIER-6cMODIFIER-7cMODIFIER-8",
  "cMODIFIER-9cMODIFIER-10cMODIFIER-11cMODIFIER-12cMODIFIER-13cMODIFIER-14cMODIFIER-15",
  "cMODIFIER-16/1DF00aLATIN SMALL LETTER FENG DIGRAPH WITH TRILLdREVERSED SCRIPT G",
  "bLETTER SMALL CAPITAL TURNED GbSMALL LETTER REVERSED KbLETTER SMALL CAPITAL L WITH BELT",
  "bSMALL LETTER LEZH WITH RETROFLEX HOOKdTURNED Y WITH BELTdREVERSED ENG",
  "dTURNED R WITH LONG LEG AND RETROFLEX HOOKdT WITH HOOK AND RETROFLEX HOOK",
  "bLETTER RETROFLEX CLICK WITH RETROFLEX HOOKbSMALL LETTER ESH WITH DOUBLE BARhAND CURL",
  "dTURNED T WITH CURLbLETTER INVERTED GLOTTAL STOP WITH CURLcSTRETCHED C WITH CURL",
  "cSMALL CAPITAL TURNED KbSMALL LETTER L WITH FISHHOOKdDEZH DIGRAPH WITH PALATAL HOOK",
  "dL WITH BELT AND PALATAL HOOKdENG WITH PALATAL HOOKdTURNED R WITH PALATAL HOOK",
  "dR WITH FISHHOOK AND PALATAL HOOKdTESH DIGRAPH WITH PALATAL HOOKdEZH WITH PALATAL HOOK",
  "dDEZH DIGRAPH WITH RETROFLEX HOOKdI WITH STROKE AND RETROFLEX HOOKdO WITH RETROFLEX HOOK",
  "dTESH DIGRAPH WITH RETROFLEX HOOKdC WITH RETROFLEX HOOKdS WITH CURL/1DF25",
  "dD WITH MID-HEIGHT LEFT HOOKdL WITH MID-HEIGHT LEFT HOOKdN WITH MID-HEIGHT LEFT HOOK",
  "dR WITH MID-HEIGHT LEFT HOOKdS WITH MID-HEIGHT LEFT HOOKdT WITH MID-HEIGHT LEFT HOOK/1E000",
  "aCOMBINING GLAGOLITIC LETTER AZUdBUKYdVEDEdGLAGOLIdDOBROdYESTUdZHIVETE/1E008dZEMLJAdIZHE",
  "dINITIAL IZHEdIdDJERVIdKAKOdLJUDIJEdMYSLITEdNASHIdONUdPOKOJIdRITSIdSLOVOdTVRIDOdUKUdFRITUdHERU",
  "/1E01BdSHTAdTSIdCHRIVIdSHAdYERUdYERIdYATI/1E023dYUdSMALL YUS/1E026dYOdIOTATED SMALL YUS",
  "dBIG YUSdIOTATED BIG YUSdFITA/1E030aMODIFIER LETTER CYRILLIC SMALL AeBEeVEeGHEeDEeIEeZHEeZEeI",
  "eKAeELeEMeOePEeEReESeTEeUeEFeHAeTSEeCHEeSHAeYERUeEeYUeDZZEeSCHWAeBYELORUSSIAN-UKRAINIAN IeJE",
  "eBARRED OeSTRAIGHT UePALOCHKAaCYRILLIC SUBSCRIPT SMALL LETTER AeBEeVEeGHEeDEeIEeZHEeZEeIeKAeEL",
  "eOePEeESeUeEFeHAeTSEeCHEeSHAeHARD SIGNeYERUeGHE WITH UPTURNeBYELORUSSIAN-UKRAINIAN IeDZEeDZHE",
  "aMODIFIER LETTER CYRILLIC SMALL ES WITH DESCENDEReYERU WITH BACK YEReSTRAIGHT U WITH STROKE",
  "/1E08FaCOMBINING CYRILLIC SMALL LETTER BYELORUSSIAN-UKRAINIAN I/1E100",
  "aNYIAKENG PUACHUE HMONG LETTER MAeTSAeNTAeTAeHAeNAeXAeNKAeCAeLAeSAeZAeNCAeNTSAeKAeDAeNYAeNRA",
  "eVAeNTXAeTXAeFAeRAeQAeYAeNQAePAeXYAeNPAeDLAeNPLAeHAHeMLAePLAeGAeRRAeAeAAeIeUeOeOOeEeEEeW/1E130",
  "dTONE-BdTONE-MdTONE-JdTONE-VdTONE-SdTONE-GdTONE-DdSIGN FOR PERSONfTHINGfLOCATIONfANIMAL",
  "fINVERTEBRATEeXW XWdSYLLABLE LENGTHENER/1E140dDIGIT ZEROeONEeTWOeTHREEeFOUReFIVEeSIXeSEVEN",
  "eEIGHTeNINE/1E14EdLOGOGRAM NYAJdCIRCLED CA/1E290aTOTO LETTER PAcBAcTAcDAcKAcGAcMAcNAcNGAcSA",
  "cCHAcYAcWAcJAcHAcRAcLAcIcBREATHY IcIUcBREATHY IUcUcEcBREATHY EcEOcBREATHY EOcOcAEcBREATHY AEcA",
  "bSIGN RISING TONE/1E2C0aWANCHO LETTER AAcAcBAcCAcDAcGAcYAcPHAcLAcNAcPAcTAcTHAcFAcSAcSHAcJAcZA",
  "cWAcVAcKAcOcAUcRAcMAcKHAcHAcEcIcNGAcUcLLHAcTSAcTRAcONGcAANGcANGcINGcONcENcAANcNYAcUENcYIH",
  "bTONE TUPcTUPNIcKOIcKOINIbDIGIT ZEROcONEcTWOcTHREEcFOURcFIVEcSIXcSEVENcEIGHTcNINE/1E2FF",
  "bNGUN SIGN/1E4D0aNAG MUNDARI LETTER OdOPdOLdOYdONGdAdAJdABdANYdAHdIdISdIDDdITdIHdUdUCdUDdUKdUR",
  "dEdENNdEGdEMdENdETTdELLcSIGN OJODdMUHORdTOYORdIKIRdSUTUHcDIGIT ZEROdONEdTWOdTHREEdFOURdFIVE",
  "dSIXdSEVENdEIGHTdNINE/1E7E0aETHIOPIC SYLLABLE HHYAcHHYUcHHYIcHHYAAcHHYEEcHHYEcHHYO/1E7E8",
  "cGURAGE HHWAcHHWIcHHWEEcHHWE/1E7EDcGURAGE MWIdMWEE/1E7F0dQWIdQWEEdQWEdBWIdBWEEdKWIdKWEEdKWE",
  "dGWIdGWEEdGWEdFWIdFWEEdPWIdPWEE/1E800aMENDE KIKAKUI SYLLABLE M001 KIdM002 KAdM003 KUdM065 KEE",
  "dM095 KEdM076 KOOdM048 KOdM179 KUAdM004 WIdM005 WAdM006 WUdM126 WEEdM118 WEdM114 WOOdM045 WO",
  "dM194 WUIdM143 WEIdM061 WVIdM049 WVAdM139 WVEdM007 MINdM008 MANdM009 MUNdM059 MENdM094 MON",
  "dM154 MUANdM189 MUENdM010 BIdM011 BAdM012 BUdM150 BEEdM097 BEdM103 BOOdM138 BOdM013 IdM014 A",
  "dM015 UdM163 EEdM100 EdM165 OOdM147 OdM137 EIdM131 INdM135 INdM195 ANdM178 ENdM019 SIdM020 SA",
  "dM021 SUdM162 SEEdM116 SEdM136 SOOdM079 SOdM196 SIAdM025 LIdM026 LAdM027 LUdM084 LEEdM073 LE",
  "dM054 LOOdM153 LOdM110 LONG LEdM016 DIdM017 DAdM018 DUdM089 DEEdM180 DOOdM181 DOdM022 TI",
  "dM023 TAdM024 TUdM091 TEEdM055 TEdM104 TOOdM069 TOdM028 JIdM029 JAdM030 JUdM157 JEEdM113 JE",
  "dM160 JOOdM063 JOdM175 LONG JOdM031 YIdM032 YAdM033 YUdM109 YEEdM080 YEdM141 YOOdM121 YO",
  "dM034 FIdM035 FAdM036 FUdM078 FEEdM075 FEdM133 FOOdM088 FOdM197 FUAdM101 FANdM037 NINdM038 NAN",
  "dM039 NUNdM117 NENdM169 NONdM176 HIdM041 HAdM186 HUdM040 HEEdM096 HEdM042 HOOdM140 HO",
  "dM083 HEEIdM128 HOOUdM053 HINdM130 HANdM087 HUNdM052 HENdM193 HONdM046 HUANdM090 NGGI",
  "dM043 NGGAdM082 NGGUdM115 NGGEEdM146 NGGEdM156 NGGOOdM120 NGGOdM159 NGGAAdM127 NGGUA",
  "dM086 LONG NGGEdM106 LONG NGGOOdM183 LONG NGGOdM155 GIdM111 GAdM168 GUdM190 GEEdM166 GUEI",
  "dM167 GUANdM184 NGENdM057 NGONdM177 NGUANdM068 PIdM099 PAdM050 PUdM081 PEEdM051 PEdM102 POO",
  "dM066 POdM145 MBIdM062 MBAdM122 MBUdM047 MBEEdM188 MBEEdM072 MBEdM172 MBOOdM174 MBOdM187 MBUU",
  "dM161 LONG MBEdM105 LONG MBOOdM142 LONG MBOdM132 KPIdM092 KPAdM074 KPUdM044 KPEEdM108 KPE",
  "dM112 KPOOdM158 KPOdM124 GBIdM056 GBAdM148 GBUdM093 GBEEdM107 GBEdM071 GBOOdM070 GBOdM171 RA",
  "dM123 NDIdM129 NDAdM125 NDUdM191 NDEEdM119 NDEdM067 NDOOdM064 NDOdM152 NJAdM192 NJUdM149 NJEE",
  "dM134 NJOOdM182 VIdM185 VAdM151 VUdM173 VEEdM085 VEdM144 VOOdM077 VOdM164 NYINdM058 NYAN",
  "dM170 NYUNdM098 NYENdM060 NYON/1E8C7cDIGIT ONEdTWOdTHREEdFOURdFIVEdSIXdSEVENdEIGHTdNINE",
  "cCOMBINING NUMBER TEENSeTENSeHUNDREDSeTHOUSANDSeTEN THOUSANDSeHUNDRED THOUSANDSeMILLIONS/1E900",
  "aADLAM CAPITAL LETTER ALIFdDAALIdLAAMdMIIMdBAdSINNYIIYHEdPEdBHEdRAdEdFAdIdOdDHAdYHEdWAWdNUN",
  "dKAFdYAdUdJIIMdCHIdHAdQAAFdGAdNYAdTUdNHAdVAdKHAdGBEdZALdKPOdSHAbSMALL LETTER ALIFdDAALIdLAAM",
  "dMIIMdBAdSINNYIIYHEdPEdBHEdRAdEdFAdIdOdDHAdYHEdWAWdNUNdKAFdYAdUdJIIMdCHIdHAdQAAFdGAdNYAdTUdNHA",
  "dVAdKHAdGBEdZALdKPOdSHAbALIF LENGTHENERbVOWEL LENGTHENERbGEMINATION MARKbHAMZA",
  "bCONSONANT MODIFIERbGEMINATE CONSONANT MODIFIERbNUKTAbNASALIZATION MARK/1E950bDIGIT ZEROcONE",
  "cTWOcTHREEcFOURcFIVEcSIXcSEVENcEIGHTcNINE/1E95EbINITIAL EXCLAMATION MARKcQUESTION MARK/1EC71",
  "aINDIC SIYAQ NUMBER ONEdTWOdTHREEdFOURdFIVEdSIXdSEVENdEIGHTdNINEdTENdTWENTYdTHIRTYdFORTYdFIFTY",
  "dSIXTYdSEVENTYdEIGHTYdNINETYdONE HUNDREDdTWO HUNDREDdTHREE HUNDREDdFOUR HUNDREDdFIVE HUNDRED",
  "dSIX HUNDREDdSEVEN HUNDREDdEIGHT HUNDREDdNINE HUNDREDdONE THOUSANDdTWO THOUSANDdTHREE THOUSAND",
  "dFOUR THOUSANDdFIVE THOUSANDdSIX THOUSANDdSEVEN THOUSANDdEIGHT THOUSANDdNINE THOUSAND",
  "dTEN THOUSANDdTWENTY THOUSANDdTHIRTY THOUSANDdFORTY THOUSANDdFIFTY THOUSANDdSIXTY THOUSAND",
  "dSEVENTY THOUSANDdEIGHTY THOUSANDdNINETY THOUSANDdLAKHdLAKHANcLAKH MARKcNUMBER KARORdKARORAN",
  "dPREFIXED ONEeTWOeTHREEeFOUReFIVEeSIXeSEVENeEIGHTeNINEcPLACEHOLDERcFRACTION ONE QUARTEReHALF",
  "dTHREE QUARTERScRUPEE MARKcNUMBER ALTERNATE ONEeTWOeTEN THOUSANDcALTERNATE LAKH MARK/1ED01",
  "aOTTOMAN SIYAQ NUMBER ONEdTWOdTHREEdFOURdFIVEdSIXdSEVENdEIGHTdNINEdTENdTWENTYdTHIRTYdFORTY",
  "dFIFTYdSIXTYdSEVENTYdEIGHTYdNINETYdONE HUNDREDdTWO HUNDREDdTHREE HUNDREDdFOUR HUNDRED",
  "dFIVE HUNDREDdSIX HUNDREDdSEVEN HUNDREDdEIGHT HUNDREDdNINE HUNDREDdONE THOUSANDdTWO THOUSAND",
  "dTHREE THOUSANDdFOUR THOUSANDdFIVE THOUSANDdSIX THOUSANDdSEVEN THOUSANDdEIGHT THOUSAND",
  "dNINE THOUSANDdTEN THOUSANDdTWENTY THOUSANDdTHIRTY THOUSANDdFORTY THOUSANDdFIFTY THOUSAND",
  "dSIXTY THOUSANDdSEVENTY THOUSANDdEIGHTY THOUSANDdNINETY THOUSANDcMARRATANcALTERNATE NUMBER TWO",
  "eTHREEeFOUReFIVEeSIXeSEVENeEIGHTeNINEeTENeFOUR HUNDREDeSIX HUNDREDeTWO THOUSANDeTEN THOUSAND",
  "cFRACTION ONE HALFeSIXTH/1EE00aARABIC MATHEMATICAL ALEFcBEHcJEEMcDAL/1EE05cWAWcZAINcHAHcTAH",
  "cYEHcKAFcLAMcMEEMcNOONcSEENcAINcFEHcSADcQAFcREHcSHEENcTEHcTHEHcKHAHcTHALcDADcZAHcGHAIN",
  "cDOTLESS BEHdNOONdFEHdQAF/1EE21cINITIAL BEHdJEEM/1EE24dHEH/1EE27dHAH/1EE29dYEHdKAFdLAMdMEEM",
  "dNOONdSEENdAINdFEHdSADdQAF/1EE34dSHEENdTEHdTHEHdKHAH/1EE39dDAD/1EE3BdGHAIN/1EE42cTAILED JEEM",
  "/1EE47dHAH/1EE49dYEH/1EE4BdLAM/1EE4DdNOONdSEENdAIN/1EE51dSADdQAF/1EE54dSHEEN/1EE57dKHAH/1EE59",
  "dDAD/1EE5BdGHAIN/1EE5DdDOTLESS NOON/1EE5FeQAF/1EE61cSTRETCHED BEHdJEEM/1EE64dHEH/1EE67dHAHdTAH",
  "dYEHdKAF/1EE6CdMEEMdNOONdSEENdAINdFEHdSADdQAF/1EE74dSHEENdTEHdTHEHdKHAH/1EE79dDADdZAHdGHAIN",
  "dDOTLESS BEH/1EE7EeFEH/1EE80cLOOPED ALEFdBEHdJEEMdDALdHEHdWAWdZAINdHAHdTAHdYEH/1EE8BdLAMdMEEM",
  "dNOONdSEENdAINdFEHdSADdQAFdREHdSHEENdTEHdTHEHdKHAHdTHALdDADdZAHdGHAIN/1EEA1cDOUBLE-STRUCK BEH",
  "dJEEMdDAL/1EEA5dWAWdZAINdHAHdTAHdYEH/1EEABdLAMdMEEMdNOONdSEENdAINdFEHdSADdQAFdREHdSHEENdTEH",
  "dTHEHdKHAHdTHALdDADdZAHdGHAIN/1EEF0cOPERATOR MEEM WITH HAH WITH TATWEELdHAH WITH DAL"]

end LexPattern.Name.Table
