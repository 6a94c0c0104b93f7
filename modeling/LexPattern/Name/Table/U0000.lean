namespace LexPattern.Name.Table

def fromU0000 : List String := [
  "/20aSPACEaEXCLAMATION MARKaQUOTATION MARKaNUMBER SIGNaDOLLAR SIGNaPERCENT SIGNaAMPERSAND",
  "aAPOSTROPHEaLEFT PARENTHESISaRIGHT PARENTHESISaASTERISKaPLUS SIGNaCOMMAaHYPHEN-MINUSaFULL STOP",
  "aSOLIDUSaDIGIT ZERObONEbTWObTHREEbFOURbFIVEbSIXbSEVENbEIGHTbNINEaCOLONaSEMICOLON",
  "aLESS-THAN SIGNaEQUALS SIGNaGREATER-THAN SIGNaQUESTION MARKaCOMMERCIAL AT",
  "aLATIN CAPITAL LETTER AdBdCdDdEdFdGdHdIdJdKdLdMdNdOdPdQdRdSdTdUdVdWdXdYdZaLEFT SQUARE BRACKET",
  "aREVERSE SOLIDUSaRIGHT SQUARE BRACKETaCIRCUMFLEX ACCENTaLOW LINEaGRAVE ACCENT",
  "aLATIN SMALL LETTER AdBdCdDdEdFdGdHdIdJdKdLdMdNdOdPdQdRdSdTdUdVdWdXdYdZaLEFT CURLY BRACKET",
  "aVERTICAL LINEaRIGHT CURLY BRACKETaTILDE/A0aNO-BREAK SPACEaINVERTED EXCLAMATION MARKaCENT SIGN",
  "aPOUND SIGNaCURRENCY SIGNaYEN SIGNaBROKEN BARaSECTION SIGNaDIAERESISaCOPYRIGHT SIGN",
  "aFEMININE ORDINAL INDICATORaLEFT-POINTING DOUBLE ANGLE QUOTATION MARKaNOT SIGNaSOFT HYPHEN",
  "aREGISTERED SIGNaMACRONaDEGREE SIGNaPLUS-MINUS SIGNaSUPERSCRIPT TWObTHREEaACUTE ACCENT",
  "aMICRO SIGNaPILCROW SIGNaMIDDLE DOTaCEDILLAaSUPERSCRIPT ONEaMASCULINE ORDINAL INDICATOR",
  "aRIGHT-POINTING DOUBLE ANGLE QUOTATION MARKaVULGAR FRACTION ONE QUARTERdHALFcTHREE QUARTERS",
  "aINVERTED QUESTION MARKaLATIN CAPITAL LETTER A WITH GRAVEfACUTEfCIRCUMFLEXfTILDEfDIAERESIS",
  "fRING ABOVEdAEdC WITH CEDILLAdE WITH GRAVEfACUTEfCIRCUMFLEXfDIAERESISdI WITH GRAVEfACUTE",
  "fCIRCUMFLEXfDIAERESISdETHdN WITH TILDEdO WITH GRAVEfACUTEfCIRCUMFLEXfTILDEfDIAERESIS",
  "aMULTIPLICATION SIGNaLATIN CAPITAL LETTER O WITH STROKEdU WITH GRAVEfACUTEfCIRCUMFLEX",
  "fDIAERESISdY WITH ACUTEdTHORNbSMALL LETTER SHARP SdA WITH GRAVEfACUTEfCIRCUMFLEXfTILDE",
  "fDIAERESISfRING ABOVEdAEdC WITH CEDILLAdE WITH GRAVEfACUTEfCIRCUMFLEXfDIAERESISdI WITH GRAVE",
  "fACUTEfCIRCUMFLEXfDIAERESISdETHdN WITH TILDEdO WITH GRAVEfACUTEfCIRCUMFLEXfTILDEfDIAERESIS",
  "aDIVISION SIGNaLATIN SMALL LETTER O WITH STROKEdU WITH GRAVEfACUTEfCIRCUMFLEXfDIAERESIS",
  "dY WITH ACUTEdTHORNdY WITH DIAERESISbCAPITAL LETTER A WITH MACRONbSMALL LETTER A WITH MACRON",
  "bCAPITAL LETTER A WITH BREVEbSMALL LETTER A WITH BREVEbCAPITAL LETTER A WITH OGONEK",
  "bSMALL LETTER A WITH OGONEKbCAPITAL LETTER C WITH ACUTEbSMALL LETTER C WITH ACUTE",
  "bCAPITAL LETTER C WITH CIRCUMFLEXbSMALL LETTER C WITH CIRCUMFLEX",
  "bCAPITAL LETTER C WITH DOT ABOVEbSMALL LETTER C WITH DOT ABOVEbCAPITAL LETTER C WITH CARON",
  "bSMALL LETTER C WITH CARONbCAPITAL LETTER D WITH CARONbSMALL LETTER D WITH CARON",
  "bCAPITAL LETTER D WITH STROKEbSMALL LETTER D WITH STROKEbCAPITAL LETTER E WITH MACRON",
  "bSMALL LETTER E WITH MACRONbCAPITAL LETTER E WITH BREVEbSMALL LETTER E WITH BREVE",
  "bCAPITAL LETTER E WITH DOT ABOVEbSMALL LETTER E WITH DOT ABOVEbCAPITAL LETTER E WITH OGONEK",
  "bSMALL LETTER E WITH OGONEKbCAPITAL LETTER E WITH CARONbSMALL LETTER E WITH CARON",
  "bCAPITAL LETTER G WITH CIRCUMFLEXbSMALL LETTER G WITH CIRCUMFLEXbCAPITAL LETTER G WITH BREVE",
  "bSMALL LETTER G WITH BREVEbCAPITAL LETTER G WITH DOT ABOVEbSMALL LETTER G WITH DOT ABOVE",
  "bCAPITAL LETTER G WITH CEDILLAbSMALL LETTER G WITH CEDILLAbCAPITAL LETTER H WITH CIRCUMFLEX",
  "bSMALL LETTER H WITH CIRCUMFLEXbCAPITAL LETTER H WITH STROKEbSMALL LETTER H WITH STROKE",
  "bCAPITAL LETTER I WITH TILDEbSMALL LETTER I WITH TILDEbCAPITAL LETTER I WITH MACRON",
  "bSMALL LETTER I WITH MACRONbCAPITAL LETTER I WITH BREVEbSMALL LETTER I WITH BREVE",
  "bCAPITAL LETTER I WITH OGONEKbSMALL LETTER I WITH OGONEKbCAPITAL LETTER I WITH DOT ABOVE",
  "bSMALL LETTER DOTLESS IbCAPITAL LIGATURE IJbSMALL LIGATURE IJbCAPITAL LETTER J WITH CIRCUMFLEX",
  "bSMALL LETTER J WITH CIRCUMFLEXbCAPITAL LETTER K WITH CEDILLAbSMALL LETTER K WITH CEDILLAdKRA",
  "bCAPITAL LETTER L WITH ACUTEbSMALL LETTER L WITH ACUTEbCAPITAL LETTER L WITH CEDILLA",
  "bSMALL LETTER L WITH CEDILLAbCAPITAL LETTER L WITH CARONbSMALL LETTER L WITH CARON",
  "bCAPITAL LETTER L WITH MIDDLE DOTbSMALL LETTER L WITH MIDDLE DOTbCAPITAL LETTER L WITH STROKE",
  "bSMALL LETTER L WITH STROKEbCAPITAL LETTER N WITH ACUTEbSMALL LETTER N WITH ACUTE",
  "bCAPITAL LETTER N WITH CEDILLAbSMALL LETTER N WITH CEDILLAbCAPITAL LETTER N WITH CARON",
  "bSMALL LETTER N WITH CARONePRECEDED BY APOSTROPHEbCAPITAL LETTER ENGbSMALL LETTER ENG",
  "bCAPITAL LETTER O WITH MACRONbSMALL LETTER O WITH MACRONbCAPITAL LETTER O WITH BREVE",
  "bSMALL LETTER O WITH BREVEbCAPITAL LETTER O WITH DOUBLE ACUTEbSMALL LETTER O WITH DOUBLE ACUTE",
  "bCAPITAL LIGATURE OEbSMALL LIGATURE OEbCAPITAL LETTER R WITH ACUTEbSMALL LETTER R WITH ACUTE",
  "bCAPITAL LETTER R WITH CEDILLAbSMALL LETTER R WITH CEDILLAbCAPITAL LETTER R WITH CARON",
  "bSMALL LETTER R WITH CARONbCAPITAL LETTER S WITH ACUTEbSMALL LETTER S WITH ACUTE",
  "bCAPITAL LETTER S WITH CIRCUMFLEXbSMALL LETTER S WITH CIRCUMFLEXbCAPITAL LETTER S WITH CEDILLA",
  "bSMALL LETTER S WITH CEDILLAbCAPITAL LETTER S WITH CARONbSMALL LETTER S WITH CARON",
  "bCAPITAL LETTER T WITH CEDILLAbSMALL LETTER T WITH CEDILLAbCAPITAL LETTER T WITH CARON",
  "bSMALL LETTER T WITH CARONbCAPITAL LETTER T WITH STROKEbSMALL LETTER T WITH STROKE",
  "bCAPITAL LETTER U WITH TILDEbSMALL LETTER U WITH TILDEbCAPITAL LETTER U WITH MACRON",
  "bSMALL LETTER U WITH MACRONbCAPITAL LETTER U WITH BREVEbSMALL LETTER U WITH BREVE",
  "bCAPITAL LETTER U WITH RING ABOVEbSMALL LETTER U WITH RING ABOVE",
  "bCAPITAL LETTER U WITH DOUBLE ACUTEbSMALL LETTER U WITH DOUBLE ACUTE",
  "bCAPITAL LETTER U WITH OGONEKbSMALL LETTER U WITH OGONEKbCAPITAL LETTER W WITH CIRCUMFLEX",
  "bSMALL LETTER W WITH CIRCUMFLEXbCAPITAL LETTER Y WITH CIRCUMFLEX",
  "bSMALL LETTER Y WITH CIRCUMFLEXbCAPITAL LETTER Y WITH DIAERESISdZ WITH ACUTE",
  "bSMALL LETTER Z WITH ACUTEbCAPITAL LETTER Z WITH DOT ABOVEbSMALL LETTER Z WITH DOT ABOVE",
  "bCAPITAL LETTER Z WITH CARONbSMALL LETTER Z WITH CARONdLONG SdB WITH STROKE",
  "bCAPITAL LETTER B WITH HOOKfTOPBARbSMALL LETTER B WITH TOPBARbCAPITAL LETTER TONE SIX",
  "bSMALL LETTER TONE SIXbCAPITAL LETTER OPEN OdC WITH HOOKbSMALL LETTER C WITH HOOK",
  "bCAPITAL LETTER AFRICAN DdD WITH HOOKfTOPBARbSMALL LETTER D WITH TOPBARdTURNED DELTA",
  "bCAPITAL LETTER REVERSED EdSCHWAdOPEN EdF WITH HOOKbSMALL LETTER F WITH HOOK",
  "bCAPITAL LETTER G WITH HOOKdGAMMAbSMALL LETTER HVbCAPITAL LETTER IOTAdI WITH STROKE",
  "dK WITH HOOKbSMALL LETTER K WITH HOOKdL WITH BARdLAMBDA WITH STROKEbCAPITAL LETTER TURNED M",
  "dN WITH LEFT HOOKbSMALL LETTER N WITH LONG RIGHT LEGbCAPITAL LETTER O WITH MIDDLE TILDEfHORN",
  "bSMALL LETTER O WITH HORNbCAPITAL LETTER OIbSMALL LETTER OIbCAPITAL LETTER P WITH HOOK",
  "bSMALL LETTER P WITH HOOKbLETTER YRbCAPITAL LETTER TONE TWObSMALL LETTER TONE TWO",
  "bCAPITAL LETTER ESHbLETTER REVERSED ESH LOOPbSMALL LETTER T WITH PALATAL HOOK",
  "bCAPITAL LETTER T WITH HOOKbSMALL LETTER T WITH HOOKbCAPITAL LETTER T WITH RETROFLEX HOOK",
  "dU WITH HORNbSMALL LETTER U WITH HORNbCAPITAL LETTER UPSILONdV WITH HOOKdY WITH HOOK",
  "bSMALL LETTER Y WITH HOOKbCAPITAL LETTER Z WITH STROKEbSMALL LETTER Z WITH STROKE",
  "bCAPITAL LETTER EZHeREVERSEDbSMALL LETTER EZH REVERSEDeWITH TAILbLETTER TWO WITH STROKE",
  "bCAPITAL LETTER TONE FIVEbSMALL LETTER TONE FIVEbLETTER INVERTED GLOTTAL STOP WITH STROKEcWYNN",
  "cDENTAL CLICKcLATERAL CLICKcALVEOLAR CLICKcRETROFLEX CLICKbCAPITAL LETTER DZ WITH CARON",
  "dD WITH SMALL LETTER Z WITH CARONbSMALL LETTER DZ WITH CARONbCAPITAL LETTER LJ",
  "dL WITH SMALL LETTER JbSMALL LETTER LJbCAPITAL LETTER NJdN WITH SMALL LETTER JbSMALL LETTER NJ",
  "bCAPITAL LETTER A WITH CARONbSMALL LETTER A WITH CARONbCAPITAL LETTER I WITH CARON",
  "bSMALL LETTER I WITH CARONbCAPITAL LETTER O WITH CARONbSMALL LETTER O WITH CARON",
  "bCAPITAL LETTER U WITH CARONbSMALL LETTER U WITH CARON",
  "bCAPITAL LETTER U WITH DIAERESIS AND MACRONbSMALL LETTER U WITH DIAERESIS AND MACRON",
  "bCAPITAL LETTER U WITH DIAERESIS AND ACUTEbSMALL LETTER U WITH DIAERESIS AND ACUTE",
  "bCAPITAL LETTER U WITH DIAERESIS AND CARONbSMALL LETTER U WITH DIAERESIS AND CARON",
  "bCAPITAL LETTER U WITH DIAERESIS AND GRAVEbSMALL LETTER U WITH DIAERESIS AND GRAVEdTURNED E",
  "bCAPITAL LETTER A WITH DIAERESIS AND MACRONbSMALL LETTER A WITH DIAERESIS AND MACRON",
  "bCAPITAL LETTER A WITH DOT ABOVE AND MACRONbSMALL LETTER A WITH DOT ABOVE AND MACRON",
  "bCAPITAL LETTER AE WITH MACRONbSMALL LETTER AE WITH MACRONbCAPITAL LETTER G WITH STROKE",
  "bSMALL LETTER G WITH STROKEbCAPITAL LETTER G WITH CARONbSMALL LETTER G WITH CARON",
  "bCAPITAL LETTER K WITH CARONbSMALL LETTER K WITH CARONbCAPITAL LETTER O WITH OGONEK",
  "bSMALL LETTER O WITH OGONEKbCAPITAL LETTER O WITH OGONEK AND MACRON",
  "bSMALL LETTER O WITH OGONEK AND MACRONbCAPITAL LETTER EZH WITH CARON",
  "bSMALL LETTER EZH WITH CARONdJ WITH CARONbCAPITAL LETTER DZdD WITH SMALL LETTER Z",
  "bSMALL LETTER DZbCAPITAL LETTER G WITH ACUTEbSMALL LETTER G WITH ACUTEbCAPITAL LETTER HWAIR",
  "dWYNNdN WITH GRAVEbSMALL LETTER N WITH GRAVEbCAPITAL LETTER A WITH RING ABOVE AND ACUTE",
  "bSMALL LETTER A WITH RING ABOVE AND ACUTEbCAPITAL LETTER AE WITH ACUTE",
  "bSMALL LETTER AE WITH ACUTEbCAPITAL LETTER O WITH STROKE AND ACUTE",
  "bSMALL LETTER O WITH STROKE AND ACUTEbCAPITAL LETTER A WITH DOUBLE GRAVE",
  "bSMALL LETTER A WITH DOUBLE GRAVEbCAPITAL LETTER A WITH INVERTED BREVE",
  "bSMALL LETTER A WITH INVERTED BREVEbCAPITAL LETTER E WITH DOUBLE GRAVE",
  "bSMALL LETTER E WITH DOUBLE GRAVEbCAPITAL LETTER E WITH INVERTED BREVE",
  "bSMALL LETTER E WITH INVERTED BREVEbCAPITAL LETTER I WITH DOUBLE GRAVE",
  "bSMALL LETTER I WITH DOUBLE GRAVEbCAPITAL LETTER I WITH INVERTED BREVE",
  "bSMALL LETTER I WITH INVERTED BREVEbCAPITAL LETTER O WITH DOUBLE GRAVE",
  "bSMALL LETTER O WITH DOUBLE GRAVEbCAPITAL LETTER O WITH INVERTED BREVE",
  "bSMALL LETTER O WITH INVERTED BREVEbCAPITAL LETTER R WITH DOUBLE GRAVE",
  "bSMALL LETTER R WITH DOUBLE GRAVEbCAPITAL LETTER R WITH INVERTED BREVE",
  "bSMALL LETTER R WITH INVERTED BREVEbCAPITAL LETTER U WITH DOUBLE GRAVE",
  "bSMALL LETTER U WITH DOUBLE GRAVEbCAPITAL LETTER U WITH INVERTED BREVE",
  "bSMALL LETTER U WITH INVERTED BREVEbCAPITAL LETTER S WITH COMMA BELOW",
  "bSMALL LETTER S WITH COMMA BELOWbCAPITAL LETTER T WITH COMMA BELOW",
  "bSMALL LETTER T WITH COMMA BELOWbCAPITAL LETTER YOGHbSMALL LETTER YOGH",
  "bCAPITAL LETTER H WITH CARONbSMALL LETTER H WITH CARONbCAPITAL LETTER N WITH LONG RIGHT LEG",
  "bSMALL LETTER D WITH CURLbCAPITAL LETTER OUbSMALL LETTER OUbCAPITAL LETTER Z WITH HOOK",
  "bSMALL LETTER Z WITH HOOKbCAPITAL LETTER A WITH DOT ABOVEbSMALL LETTER A WITH DOT ABOVE",
  "bCAPITAL LETTER E WITH CEDILLAbSMALL LETTER E WITH CEDILLA",
  "bCAPITAL LETTER O WITH DIAERESIS AND MACRONbSMALL LETTER O WITH DIAERESIS AND MACRON",
  "bCAPITAL LETTER O WITH TILDE AND MACRONbSMALL LETTER O WITH TILDE AND MACRON",
  "bCAPITAL LETTER O WITH DOT ABOVEbSMALL LETTER O WITH DOT ABOVE",
  "bCAPITAL LETTER O WITH DOT ABOVE AND MACRONbSMALL LETTER O WITH DOT ABOVE AND MACRON",
  "bCAPITAL LETTER Y WITH MACRONbSMALL LETTER Y WITH MACRONdL WITH CURLdN WITH CURLdT WITH CURL",
  "dDOTLESS JdDB DIGRAPHdQP DIGRAPHbCAPITAL LETTER A WITH STROKEdC WITH STROKE",
  "bSMALL LETTER C WITH STROKEbCAPITAL LETTER L WITH BARdT WITH DIAGONAL STROKE",
  "bSMALL LETTER S WITH SWASH TAILdZ WITH SWASH TAILbCAPITAL LETTER GLOTTAL STOP",
  "bSMALL LETTER GLOTTAL STOPbCAPITAL LETTER B WITH STROKEdU BARdTURNED VdE WITH STROKE",
  "bSMALL LETTER E WITH STROKEbCAPITAL LETTER J WITH STROKEbSMALL LETTER J WITH STROKE",
  "bCAPITAL LETTER SMALL Q WITH HOOK TAILbSMALL LETTER Q WITH HOOK TAIL",
  "bCAPITAL LETTER R WITH STROKEbSMALL LETTER R WITH STROKEbCAPITAL LETTER Y WITH STROKE",
  "bSMALL LETTER Y WITH STROKEdTURNED AdALPHAdTURNED ALPHAdB WITH HOOKdOPEN OdC WITH CURL",
  "dD WITH TAILfHOOKdREVERSED EdSCHWAeWITH HOOKdOPEN EdREVERSED OPEN EgWITH HOOK",
  "dCLOSED REVERSED OPEN EdDOTLESS J WITH STROKEdG WITH HOOKdSCRIPT GbLETTER SMALL CAPITAL G",
  "bSMALL LETTER GAMMAdRAMS HORNdTURNED HdH WITH HOOKdHENG WITH HOOKdI WITH STROKEdIOTA",
  "bLETTER SMALL CAPITAL IbSMALL LETTER L WITH MIDDLE TILDEfBELTfRETROFLEX HOOKdLEZHdTURNED M",
  "fWITH LONG LEGdM WITH HOOKdN WITH LEFT HOOKfRETROFLEX HOOKbLETTER SMALL CAPITAL N",
  "bSMALL LETTER BARRED ObLETTER SMALL CAPITAL OEbSMALL LETTER CLOSED OMEGAdPHIdTURNED R",
  "fWITH LONG LEGgHOOKdR WITH LONG LEGfTAILfFISHHOOKdREVERSED R WITH FISHHOOK",
  "bLETTER SMALL CAPITAL ReINVERTED RbSMALL LETTER S WITH HOOKdESHdDOTLESS J WITH STROKE AND HOOK",
  "dSQUAT REVERSED ESHdESH WITH CURLdTURNED TdT WITH RETROFLEX HOOKdU BARdUPSILONdV WITH HOOK",
  "dTURNED VeWeYbLETTER SMALL CAPITAL YbSMALL LETTER Z WITH RETROFLEX HOOKfCURLdEZHeWITH CURL",
  "bLETTER GLOTTAL STOPcPHARYNGEAL VOICED FRICATIVEcINVERTED GLOTTAL STOPcSTRETCHED C",
  "cBILABIAL CLICKcSMALL CAPITAL BbSMALL LETTER CLOSED OPEN EbLETTER SMALL CAPITAL G WITH HOOKeH",
  "bSMALL LETTER J WITH CROSSED-TAILdTURNED KbLETTER SMALL CAPITAL LbSMALL LETTER Q WITH HOOK",
  "bLETTER GLOTTAL STOP WITH STROKEcREVERSED GLOTTAL STOP WITH STROKEbSMALL LETTER DZ DIGRAPH",
  "dDEZH DIGRAPHdDZ DIGRAPH WITH CURLdTS DIGRAPHdTESH DIGRAPHdTC DIGRAPH WITH CURLdFENG DIGRAPH",
  "dLS DIGRAPHdLZ DIGRAPHbLETTER BILABIAL PERCUSSIVEcBIDENTAL PERCUSSIVE",
  "bSMALL LETTER TURNED H WITH FISHHOOKhAND TAILaMODIFIER LETTER SMALL HeWITH HOOKdJdRdTURNED R",
  "fWITH HOOKdCAPITAL INVERTED RdWdYcPRIMEcDOUBLE PRIMEcTURNED COMMAcAPOSTROPHEcREVERSED COMMA",
  "cRIGHT HALF RINGcLEFT HALF RINGcGLOTTAL STOPcREVERSED GLOTTAL STOPcLEFT ARROWHEAD",
  "cRIGHT ARROWHEADcUP ARROWHEADcDOWN ARROWHEADcCIRCUMFLEX ACCENTaCARON",
  "aMODIFIER LETTER VERTICAL LINEcMACRONcACUTE ACCENTcGRAVE ACCENTcLOW VERTICAL LINEdMACRON",
  "dGRAVE ACCENTdACUTE ACCENTcTRIANGULAR COLONcHALF TRIANGULAR COLONcCENTRED RIGHT HALF RING",
  "dLEFT HALF RINGcUP TACKcDOWN TACKcPLUS SIGNcMINUS SIGNaBREVEaDOT ABOVEaRING ABOVEaOGONEK",
  "aSMALL TILDEaDOUBLE ACUTE ACCENTaMODIFIER LETTER RHOTIC HOOKcCROSS ACCENTcSMALL GAMMAdLdSdX",
  "dREVERSED GLOTTAL STOPcEXTRA-HIGH TONE BARcHIGH TONE BARcMID TONE BARcLOW TONE BAR",
  "cEXTRA-LOW TONE BARcYIN DEPARTING TONE MARKcYANG DEPARTING TONE MARKcVOICINGcUNASPIRATED",
  "cDOUBLE APOSTROPHEcLOW DOWN ARROWHEADdUP ARROWHEADdLEFT ARROWHEADdRIGHT ARROWHEADdRING",
  "cMIDDLE GRAVE ACCENTdDOUBLE GRAVE ACCENTeACUTE ACCENTcLOW TILDEcRAISED COLONcBEGIN HIGH TONE",
  "cEND HIGH TONEcBEGIN LOW TONEcEND LOW TONEcSHELFcOPEN SHELFcLOW LEFT ARROW",
  "aCOMBINING GRAVE ACCENTbACUTE ACCENTbCIRCUMFLEX ACCENTbTILDEbMACRONbOVERLINEbBREVEbDOT ABOVE",
  "bDIAERESISbHOOK ABOVEbRING ABOVEbDOUBLE ACUTE ACCENTbCARONbVERTICAL LINE ABOVE",
  "bDOUBLE VERTICAL LINE ABOVEcGRAVE ACCENTbCANDRABINDUbINVERTED BREVEbTURNED COMMA ABOVE",
  "bCOMMA ABOVEbREVERSED COMMA ABOVEbCOMMA ABOVE RIGHTbGRAVE ACCENT BELOWbACUTE ACCENT BELOW",
  "bLEFT TACK BELOWbRIGHT TACK BELOWbLEFT ANGLE ABOVEbHORNbLEFT HALF RING BELOWbUP TACK BELOW",
  "bDOWN TACK BELOWbPLUS SIGN BELOWbMINUS SIGN BELOWbPALATALIZED HOOK BELOWbRETROFLEX HOOK BELOW",
  "bDOT BELOWbDIAERESIS BELOWbRING BELOWbCOMMA BELOWbCEDILLAbOGONEKbVERTICAL LINE BELOW",
  "bBRIDGE BELOWbINVERTED DOUBLE ARCH BELOWbCARON BELOWbCIRCUMFLEX ACCENT BELOWbBREVE BELOW",
  "bINVERTED BREVE BELOWbTILDE BELOWbMACRON BELOWbLOW LINEbDOUBLE LOW LINEbTILDE OVERLAY",
  "bSHORT STROKE OVERLAYbLONG STROKE OVERLAYbSHORT SOLIDUS OVERLAYbLONG SOLIDUS OVERLAY",
  "bRIGHT HALF RING BELOWbINVERTED BRIDGE BELOWbSQUARE BELOWbSEAGULL BELOWbX ABOVEbVERTICAL TILDE",
  "bDOUBLE OVERLINEbGRAVE TONE MARKbACUTE TONE MARKbGREEK PERISPOMENIcKORONIScDIALYTIKA TONOS",
  "cYPOGEGRAMMENIbBRIDGE ABOVEbEQUALS SIGN BELOWbDOUBLE VERTICAL LINE BELOWbLEFT ANGLE BELOW",
  "bNOT TILDE ABOVEbHOMOTHETIC ABOVEbALMOST EQUAL TO ABOVEbLEFT RIGHT ARROW BELOW",
  "bUPWARDS ARROW BELOWbGRAPHEME JOINERbRIGHT ARROWHEAD ABOVEbLEFT HALF RING ABOVEbFERMATA",
  "bX BELOWbLEFT ARROWHEAD BELOWbRIGHT ARROWHEAD BELOWdAND UP ARROWHEAD BELOWcHALF RING ABOVE",
  "bDOT ABOVE RIGHTbASTERISK BELOWbDOUBLE RING BELOWbZIGZAG ABOVEbDOUBLE BREVE BELOWcBREVEcMACRON",
  "dBELOWcTILDEcINVERTED BREVEcRIGHTWARDS ARROW BELOWbLATIN SMALL LETTER AeEeIeOeUeCeDeHeMeReTeV",
  "eXaGREEK CAPITAL LETTER HETAbSMALL LETTER HETAbCAPITAL LETTER ARCHAIC SAMPI",
  "bSMALL LETTER ARCHAIC SAMPIbNUMERAL SIGNbLOWER NUMERAL SIGNbCAPITAL LETTER PAMPHYLIAN DIGAMMA",
  "bSMALL LETTER PAMPHYLIAN DIGAMMA/37AbYPOGEGRAMMENIbSMALL REVERSED LUNATE SIGMA SYMBOL",
  "cDOTTED LUNATE SIGMA SYMBOLcREVERSED DOTTED LUNATE SIGMA SYMBOLbQUESTION MARK",
  "bCAPITAL LETTER YOT/384bTONOSbDIALYTIKA TONOSbCAPITAL LETTER ALPHA WITH TONOSbANO TELEIA",
  "bCAPITAL LETTER EPSILON WITH TONOSdETA WITH TONOSdIOTA WITH TONOS/38CdOMICRON WITH TONOS/38E",
  "dUPSILON WITH TONOSdOMEGA WITH TONOSbSMALL LETTER IOTA WITH DIALYTIKA AND TONOS",
  "bCAPITAL LETTER ALPHAdBETAdGAMMAdDELTAdEPSILONdZETAdETAdTHETAdIOTAdKAPPAdLAMDAdMUdNUdXI",
  "dOMICRONdPIdRHO/3A3dSIGMAdTAUdUPSILONdPHIdCHIdPSIdOMEGAdIOTA WITH DIALYTIKA",
  "dUPSILON WITH DIALYTIKAbSMALL LETTER ALPHA WITH TONOSdEPSILON WITH TONOSdETA WITH TONOS",
  "dIOTA WITH TONOSdUPSILON WITH DIALYTIKA AND TONOSdALPHAdBETAdGAMMAdDELTAdEPSILONdZETAdETA",
  "dTHETAdIOTAdKAPPAdLAMDAdMUdNUdXIdOMICRONdPIdRHOdFINAL SIGMAdSIGMAdTAUdUPSILONdPHIdCHIdPSI",
  "dOMEGAdIOTA WITH DIALYTIKAdUPSILON WITH DIALYTIKAdOMICRON WITH TONOSdUPSILON WITH TONOS",
  "dOMEGA WITH TONOSbCAPITAL KAI SYMBOLbBETA SYMBOLbTHETA SYMBOLbUPSILON WITH HOOK SYMBOL",
  "dACUTE AND HOOK SYMBOLdDIAERESIS AND HOOK SYMBOLbPHI SYMBOLbPI SYMBOLbKAI SYMBOL",
  "bLETTER ARCHAIC KOPPAbSMALL LETTER ARCHAIC KOPPAbLETTER STIGMAbSMALL LETTER STIGMA",
  "bLETTER DIGAMMAbSMALL LETTER DIGAMMAbLETTER KOPPAbSMALL LETTER KOPPAbLETTER SAMPI",
  "bSMALL LETTER SAMPIaCOPTIC CAPITAL LETTER SHEIbSMALL LETTER SHEIbCAPITAL LETTER FEI",
  "bSMALL LETTER FEIbCAPITAL LETTER KHEIbSMALL LETTER KHEIbCAPITAL LETTER HORIbSMALL LETTER HORI",
  "bCAPITAL LETTER GANGIAbSMALL LETTER GANGIAbCAPITAL LETTER SHIMAbSMALL LETTER SHIMA",
  "bCAPITAL LETTER DEIbSMALL LETTER DEIaGREEK KAPPA SYMBOLbRHO SYMBOLbLUNATE SIGMA SYMBOL",
  "bLETTER YOTbCAPITAL THETA SYMBOLbLUNATE EPSILON SYMBOLbREVERSED LUNATE EPSILON SYMBOL",
  "bCAPITAL LETTER SHObSMALL LETTER SHObCAPITAL LUNATE SIGMA SYMBOLcLETTER SANbSMALL LETTER SAN",
  "bRHO WITH STROKE SYMBOLbCAPITAL REVERSED LUNATE SIGMA SYMBOLcDOTTED LUNATE SIGMA SYMBOL",
  "cREVERSED DOTTED LUNATE SIGMA SYMBOLaCYRILLIC CAPITAL LETTER IE WITH GRAVEdIOdDJEdGJE",
  "dUKRAINIAN IEdDZEdBYELORUSSIAN-UKRAINIAN IdYIdJEdLJEdNJEdTSHEdKJEdI WITH GRAVEdSHORT UdDZHEdA",
  "dBEdVEdGHEdDEdIEdZHEdZEdIdSHORT IdKAdELdEMdENdOdPEdERdESdTEdUdEFdHAdTSEdCHEdSHAdSHCHA",
  "dHARD SIGNdYERUdSOFT SIGNdEdYUdYAbSMALL LETTER AdBEdVEdGHEdDEdIEdZHEdZEdIdSHORT IdKAdELdEMdEN",
  "dOdPEdERdESdTEdUdEFdHAdTSEdCHEdSHAdSHCHAdHARD SIGNdYERUdSOFT SIGNdEdYUdYAdIE WITH GRAVEdIOdDJE",
  "dGJEdUKRAINIAN IEdDZEdBYELORUSSIAN-UKRAINIAN IdYIdJEdLJEdNJEdTSHEdKJEdI WITH GRAVEdSHORT U",
  "dDZHEbCAPITAL LETTER OMEGAbSMALL LETTER OMEGAbCAPITAL LETTER YATbSMALL LETTER YAT",
  "bCAPITAL LETTER IOTIFIED EbSMALL LETTER IOTIFIED EbCAPITAL LETTER LITTLE YUS",
  "bSMALL LETTER LITTLE YUSbCAPITAL LETTER IOTIFIED LITTLE YUSbSMALL LETTER IOTIFIED LITTLE YUS",
  "bCAPITAL LETTER BIG YUSbSMALL LETTER BIG YUSbCAPITAL LETTER IOTIFIED BIG YUS",
  "bSMALL LETTER IOTIFIED BIG YUSbCAPITAL LETTER KSIbSMALL LETTER KSIbCAPITAL LETTER PSI",
  "bSMALL LETTER PSIbCAPITAL LETTER FITAbSMALL LETTER FITAbCAPITAL LETTER IZHITSA",
  "bSMALL LETTER IZHITSAbCAPITAL LETTER IZHITSA WITH DOUBLE GRAVE ACCENT",
  "bSMALL LETTER IZHITSA WITH DOUBLE GRAVE ACCENTbCAPITAL LETTER UKbSMALL LETTER UK",
  "bCAPITAL LETTER ROUND OMEGAbSMALL LETTER ROUND OMEGAbCAPITAL LETTER OMEGA WITH TITLO",
  "bSMALL LETTER OMEGA WITH TITLObCAPITAL LETTER OTbSMALL LETTER OTbCAPITAL LETTER KOPPA",
  "bSMALL LETTER KOPPAbTHOUSANDS SIGNaCOMBINING CYRILLIC TITLOcPALATALIZATIONcDASIA PNEUMATA",
  "cPSILI PNEUMATAcPOKRYTIEcHUNDRED THOUSANDS SIGNcMILLIONS SIGN",
  "aCYRILLIC CAPITAL LETTER SHORT I WITH TAILbSMALL LETTER SHORT I WITH TAIL",
  "bCAPITAL LETTER SEMISOFT SIGNbSMALL LETTER SEMISOFT SIGNbCAPITAL LETTER ER WITH TICK",
  "bSMALL LETTER ER WITH TICKbCAPITAL LETTER GHE WITH UPTURNbSMALL LETTER GHE WITH UPTURN",
  "bCAPITAL LETTER GHE WITH STROKEbSMALL LETTER GHE WITH STROKE",
  "bCAPITAL LETTER GHE WITH MIDDLE HOOKbSMALL LETTER GHE WITH MIDDLE HOOK",
  "bCAPITAL LETTER ZHE WITH DESCENDERbSMALL LETTER ZHE WITH DESCENDER",
  "bCAPITAL LETTER ZE WITH DESCENDERbSMALL LETTER ZE WITH DESCENDER",
  "bCAPITAL LETTER KA WITH DESCENDERbSMALL LETTER KA WITH DESCENDER",
  "bCAPITAL LETTER KA WITH VERTICAL STROKEbSMALL LETTER KA WITH VERTICAL STROKE",
  "bCAPITAL LETTER KA WITH STROKEbSMALL LETTER KA WITH STROKEbCAPITAL LETTER BASHKIR KA",
  "bSMALL LETTER BASHKIR KAbCAPITAL LETTER EN WITH DESCENDERbSMALL LETTER EN WITH DESCENDER",
  "bCAPITAL LIGATURE EN GHEbSMALL LIGATURE EN GHEbCAPITAL LETTER PE WITH MIDDLE HOOK",
  "bSMALL LETTER PE WITH MIDDLE HOOKbCAPITAL LETTER ABKHASIAN HAbSMALL LETTER ABKHASIAN HA",
  "bCAPITAL LETTER ES WITH DESCENDERbSMALL LETTER ES WITH DESCENDER",
  "bCAPITAL LETTER TE WITH DESCENDERbSMALL LETTER TE WITH DESCENDERbCAPITAL LETTER STRAIGHT U",
  "bSMALL LETTER STRAIGHT UbCAPITAL LETTER STRAIGHT U WITH STROKE",
  "bSMALL LETTER STRAIGHT U WITH STROKEbCAPITAL LETTER HA WITH DESCENDER",
  "bSMALL LETTER HA WITH DESCENDERbCAPITAL LIGATURE TE TSEbSMALL LIGATURE TE TSE",
  "bCAPITAL LETTER CHE WITH DESCENDERbSMALL LETTER CHE WITH DESCENDER",
  "bCAPITAL LETTER CHE WITH VERTICAL STROKEbSMALL LETTER CHE WITH VERTICAL STROKE",
  "bCAPITAL LETTER SHHAbSMALL LETTER SHHAbCAPITAL LETTER ABKHASIAN CHEbSMALL LETTER ABKHASIAN CHE",
  "bCAPITAL LETTER ABKHASIAN CHE WITH DESCENDERbSMALL LETTER ABKHASIAN CHE WITH DESCENDER",
  "bLETTER PALOCHKAbCAPITAL LETTER ZHE WITH BREVEbSMALL LETTER ZHE WITH BREVE",
  "bCAPITAL LETTER KA WITH HOOKbSMALL LETTER KA WITH HOOKbCAPITAL LETTER EL WITH TAIL",
  "bSMALL LETTER EL WITH TAILbCAPITAL LETTER EN WITH HOOKbSMALL LETTER EN WITH HOOK",
  "bCAPITAL LETTER EN WITH TAILbSMALL LETTER EN WITH TAILbCAPITAL LETTER KHAKASSIAN CHE",
  "bSMALL LETTER KHAKASSIAN CHEbCAPITAL LETTER EM WITH TAILbSMALL LETTER EM WITH TAILdPALOCHKA",
  "bCAPITAL LETTER A WITH BREVEbSMALL LETTER A WITH BREVEbCAPITAL LETTER A WITH DIAERESIS",
  "bSMALL LETTER A WITH DIAERESISbCAPITAL LIGATURE A IEbSMALL LIGATURE A IE",
  "bCAPITAL LETTER IE WITH BREVEbSMALL LETTER IE WITH BREVEbCAPITAL LETTER SCHWA",
  "bSMALL LETTER SCHWAbCAPITAL LETTER SCHWA WITH DIAERESISbSMALL LETTER SCHWA WITH DIAERESIS",
  "bCAPITAL LETTER ZHE WITH DIAERESISbSMALL LETTER ZHE WITH DIAERESIS",
  "bCAPITAL LETTER ZE WITH DIAERESISbSMALL LETTER ZE WITH DIAERESISbCAPITAL LETTER ABKHASIAN DZE",
  "bSMALL LETTER ABKHASIAN DZEbCAPITAL LETTER I WITH MACRONbSMALL LETTER I WITH MACRON",
  "bCAPITAL LETTER I WITH DIAERESISbSMALL LETTER I WITH DIAERESISbCAPITAL LETTER O WITH DIAERESIS",
  "bSMALL LETTER O WITH DIAERESISbCAPITAL LETTER BARRED ObSMALL LETTER BARRED O",
  "bCAPITAL LETTER BARRED O WITH DIAERESISbSMALL LETTER BARRED O WITH DIAERESIS",
  "bCAPITAL LETTER E WITH DIAERESISbSMALL LETTER E WITH DIAERESISbCAPITAL LETTER U WITH MACRON",
  "bSMALL LETTER U WITH MACRONbCAPITAL LETTER U WITH DIAERESISbSMALL LETTER U WITH DIAERESIS",
  "bCAPITAL LETTER U WITH DOUBLE ACUTEbSMALL LETTER U WITH DOUBLE ACUTE",
  "bCAPITAL LETTER CHE WITH DIAERESISbSMALL LETTER CHE WITH DIAERESIS",
  "bCAPITAL LETTER GHE WITH DESCENDERbSMALL LETTER GHE WITH DESCENDER",
  "bCAPITAL LETTER YERU WITH DIAERESISbSMALL LETTER YERU WITH DIAERESIS",
  "bCAPITAL LETTER GHE WITH STROKE AND HOOKbSMALL LETTER GHE WITH STROKE AND HOOK",
  "bCAPITAL LETTER HA WITH HOOKbSMALL LETTER HA WITH HOOKbCAPITAL LETTER HA WITH STROKE",
  "bSMALL LETTER HA WITH STROKEbCAPITAL LETTER KOMI DEbSMALL LETTER KOMI DE",
  "bCAPITAL LETTER KOMI DJEbSMALL LETTER KOMI DJEbCAPITAL LETTER KOMI ZJEbSMALL LETTER KOMI ZJE",
  "bCAPITAL LETTER KOMI DZJEbSMALL LETTER KOMI DZJEbCAPITAL LETTER KOMI LJEbSMALL LETTER KOMI LJE",
  "bCAPITAL LETTER KOMI NJEbSMALL LETTER KOMI NJEbCAPITAL LETTER KOMI SJEbSMALL LETTER KOMI SJE",
  "bCAPITAL LETTER KOMI TJEbSMALL LETTER KOMI TJEbCAPITAL LETTER REVERSED ZE",
  "bSMALL LETTER REVERSED ZEbCAPITAL LETTER EL WITH HOOKbSMALL LETTER EL WITH HOOK",
  "bCAPITAL LETTER LHAbSMALL LETTER LHAbCAPITAL LETTER RHAbSMALL LETTER RHAbCAPITAL LETTER YAE",
  "bSMALL LETTER YAEbCAPITAL LETTER QAbSMALL LETTER QAbCAPITAL LETTER WEbSMALL LETTER WE",
  "bCAPITAL LETTER ALEUT KAbSMALL LETTER ALEUT KAbCAPITAL LETTER EL WITH MIDDLE HOOK",
  "bSMALL LETTER EL WITH MIDDLE HOOKbCAPITAL LETTER EN WITH MIDDLE HOOK",
  "bSMALL LETTER EN WITH MIDDLE HOOKbCAPITAL LETTER PE WITH DESCENDER",
  "bSMALL LETTER PE WITH DESCENDERbCAPITAL LETTER SHHA WITH DESCENDER",
  "bSMALL LETTER SHHA WITH DESCENDERbCAPITAL LETTER EN WITH LEFT HOOK",
  "bSMALL LETTER EN WITH LEFT HOOKbCAPITAL LETTER DZZHEbSMALL LETTER DZZHEbCAPITAL LETTER DCHE",
  "bSMALL LETTER DCHEbCAPITAL LETTER EL WITH DESCENDERbSMALL LETTER EL WITH DESCENDER/531",
  "aARMENIAN CAPITAL LETTER AYBdBENdGIMdDAdECHdZAdEHdETdTOdZHEdINIdLIWNdXEHdCAdKENdHOdJAdGHAD",
  "dCHEHdMENdYIdNOWdSHAdVOdCHAdPEHdJHEHdRAdSEHdVEWdTIWNdREHdCOdYIWNdPIWRdKEHdOHdFEH/559",
  "bMODIFIER LETTER LEFT HALF RINGbAPOSTROPHEbEMPHASIS MARKbEXCLAMATION MARKbCOMMAbQUESTION MARK",
  "bABBREVIATION MARKbSMALL LETTER TURNED AYBdAYBdBENdGIMdDAdECHdZAdEHdETdTOdZHEdINIdLIWNdXEHdCA",
  "dKENdHOdJAdGHADdCHEHdMENdYIdNOWdSHAdVOdCHAdPEHdJHEHdRAdSEHdVEWdTIWNdREHdCOdYIWNdPIWRdKEHdOH",
  "dFEHcLIGATURE ECH YIWNcLETTER YI WITH STROKEbFULL STOPbHYPHEN/58D",
  "aRIGHT-FACING ARMENIAN ETERNITY SIGNaLEFT-FACING ARMENIAN ETERNITY SIGNaARMENIAN DRAM SIGN/591",
  "aHEBREW ACCENT ETNAHTAcSEGOLcSHALSHELETcZAQEF QATANdGADOLcTIPEHAcREVIAcZARQAcPASHTAcYETIV",
  "cTEVIRcGERESHdMUQDAMcGERSHAYIMcQARNEY PARAcTELISHA GEDOLAcPAZERcATNAH HAFUKHcMUNAHcMAHAPAKH",
  "cMERKHAdKEFULAcDARGAcQADMAcTELISHA QETANAcYERAH BEN YOMOcOLEcILUYcDEHIcZINOR",
  "bMARK MASORA CIRCLEbPOINT SHEVAcHATAF SEGOLdPATAHdQAMATScHIRIQcTSEREcSEGOLcPATAHcQAMATScHOLAM",
  "dHASER FOR VAVcQUBUTScDAGESH OR MAPIQcMETEGbPUNCTUATION MAQAFbPOINT RAFEbPUNCTUATION PASEQ",
  "bPOINT SHIN DOTcSIN DOTbPUNCTUATION SOF PASUQbMARK UPPER DOTcLOWER DOTbPUNCTUATION NUN HAFUKHA",
  "bPOINT QAMATS QATAN/5D0bLETTER ALEFcBETcGIMELcDALETcHEcVAVcZAYINcHETcTETcYODcFINAL KAFcKAF",
  "cLAMEDcFINAL MEMcMEMcFINAL NUNcNUNcSAMEKHcAYINcFINAL PEcPEcFINAL TSADIcTSADIcQOFcRESHcSHINcTAV",
  "/5EFbYOD TRIANGLEbLIGATURE YIDDISH DOUBLE VAVdVAV YODdDOUBLE YODbPUNCTUATION GERESHcGERSHAYIM"]

end LexPattern.Name.Table
