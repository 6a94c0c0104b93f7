namespace LexPattern.Name.Table

def fromU12000 : List String := [
  "/12000aCUNEIFORM SIGN AdTIMES AeBADeGAN2 TENUeHAeIGIeLAGAR GUNUeMUSHeSAGcA2cABdTIMES ASH2",
  "eDUN3 GUNUeGALeGAN2 TENUeHAeIGI GUNUeIMINeLAGABeSHESHeU PLUS U PLUS UdGUNUcAB2dTIMES BALAG",
  "eGAN2 TENUeME PLUS ENeSHA3eTAK4cADcAKdTIMES ERIN2eSHITA PLUS GISHcALdTIMES ALeDIM2eGISHeHA",
  "eKAD3eKIeSHEeUSHcALANcALEPHcAMARdTIMES SHEcANdOVER ANdTHREE TIMES",
  "dPLUS NAGA OPPOSING AN PLUS NAGAfSQUAREDcANSHEcAPINcARADdTIMES KURcARKABcASAL2cASHdZIDA TENU",
  "dKABA TENUdOVER ASH TUG2 OVER TUG2 TUG2 OVER TUG2 PAPfOVER ASHhCROSSING ASH OVER ASH OVER ASH",
  "cASH2cASHGABcBAcBADcBAG3cBAHAR2cBALdOVER BALcBALAGcBARcBARA2cBIdTIMES AeGAReIGI GUNUcBU",
  "dOVER BU ABfUNdCROSSING BUcBULUGdOVER BULUGcBURcBUR2cDAcDAGdKISIM5 TIMES A PLUS MASHfAMAR",
  "fBALAGfBIfGAgPLUS MASHfGIfGIR2fGUDfHAfIRgPLUS LUfKAKfLAfLUgPLUS MASH2fLUMfNEfPAP PLUS PAPfSI",
  "fTAK4fU2 PLUS GIR2fUSHcDAMcDARcDARA3cDARA4cDIcDIBcDIMdTIMES SHEcDIM2cDINdKASKAL U GUNU DISH",
  "cDISHcDUdOVER DUdGUNUdSHESHIGcDUBdTIMES ESH2cDUB2cDUGcDUGUDcDUHcDUNcDUN3dGUNUeGUNUcDUN4cDUR2cE",
  "dTIMES PAPdOVER E NUN OVER NUNcE2dTIMES A PLUS HA PLUS DAeGAReMIeSALeSHEeUcEDINcEGIRcELcEN",
  "dTIMES GAN2fTENUeMEdCROSSING ENdOPPOSING ENdSQUAREDcERENcERIN2cESH2cEZENdTIMES AfPLUS LAL",
  "hTIMES LALeANeBADeDUN3 GUNUgGUNUeHAfGUNUeIGI GUNUeKASKALfSQUAREDeKU3eLAeLAL TIMES LALeLIeLUeU2",
  "eUDcGAdGUNUcGA2dTIMES A PLUS DA PLUS HAgHAgIGIeAB2 TENU PLUS TABeANeASHeASH2 PLUS GALeBAD",
  "eBAR PLUS RAeBURfPLUS RAeDAeDIeDIM TIMES SHEeDUBeELfPLUS LAeENfTIMES GAN2 TENUeGAN2 TENUeGAR",
  "eGIeGI4fPLUS AeGIR2 PLUS SUeHA PLUS LU PLUS ESH2eHALfPLUS LAeHI PLUS LIeHUB2eIGI GUNU",
  "eISH PLUS HU PLUS ASHeKAKeKASKALeKIDfPLUS LALeKU3 PLUS ANeLAeME PLUS ENeMIeNUNfOVER NUNePAeSAL",
  "eSAReSHEfPLUS TUReSHIDeSUMeTAK4eUeUDfPLUS DUdOVER GA2cGABAdCROSSING GABAcGAD",
  "dOVER GAD GAR OVER GARcGALdGAD OVER GAD GAR OVER GARcGALAMcGAMcGANcGAN2dTENUdOVER GAN2",
  "dCROSSING GAN2cGARcGAR3cGASHANcGESHTINdTIMES KURcGIdTIMES EeUdCROSSING GIcGI4dOVER GI4",
  "dCROSSING GI4cGIDIMcGIR2dGUNUcGIR3dTIMES A PLUS IGIeGAN2 TENUeIGIeLU PLUS IGIePAcGISALcGISH",
  "dCROSSING GISHdTIMES BADeTAK4dTENUcGUdCROSSING GUcGU2dTIMES KAKfTIMES IGI GUNUeNUN",
  "eSAL PLUS TUG2dGUNUcGUDdTIMES A PLUS KUReKURdOVER GUD LUGALcGULcGUMdTIMES SHEcGURcGUR7cGURUN",
  "cGURUSHcHAdTENUdGUNUcHALcHIdTIMES ASHeASH2eBADeDISHeGADeKINeNUNeSHEeUcHUcHUB2dTIMES ANeHAL",
  "eKASKALeLISHeUDcHUL2cIdAcIBcIDIMdOVER IDIM BURfSQUAREDcIGcIGIdDIBdRI",
  "dOVER IGI SHIR OVER SHIR UD OVER UDdGUNUcILdTIMES GAN2 TENUcIL2cIMdTIMES TAK4dCROSSING IM",
  "dOPPOSING IMdSQUAREDcIMINcINcIRcISHcKAdTIMES AeADfPLUS KU3eASH2eBADeBALAGeBAReBIeERIN2eESH2eGA",
  "eGALeGAN2 TENUeGARfPLUS SHA3 PLUS AeGIeGIR2eGISH PLUS SARfCROSSING GISHeGUeGUR7eIGIeIMeKAKeKI",
  "eKIDeLIeLUeMEfPLUS DUgGIgTEeMIfPLUS NUNUZeNEeNUNePIeRUeSAeSAReSHAeSHEeSHIDeSHUeSIGeSUHUReTAReU",
  "eU2eUDeUMUM TIMES PAeUSHeZIcKA2dCROSSING KA2cKABcKAD2cKAD3cKAD4cKAD5dOVER KAD5cKAK",
  "dTIMES IGI GUNUcKALdTIMES BADdCROSSING KALcKAM2cKAM4cKASKALdLAGAB TIMES U OVER LAGAB TIMES U",
  "dOVER KASKAL LAGAB TIMES U OVER LAGAB TIMES UcKESH2cKIdTIMES BADeUeUDcKIDcKINcKISALcKISH",
  "cKISIM5dOVER KISIM5cKUdOVER HI TIMES ASH2 KU OVER HI TIMES ASH2cKU3cKU4dVARIANT FORMcKU7cKUL",
  "dGUNUcKUNcKURdOPPOSING KURcKUSHU2cKWU318cLAcLAGABdTIMES AfPLUS DA PLUS HAgGARgLALeALeAN",
  "eASH ZIDA TENUeBADeBIeDAReENeGAeGAReGUDfPLUS GUDeHAeHALeHI TIMES NUNeIGI GUNUeIMfPLUS HAgLUeKI",
  "eKINeKU3eKULfPLUS HI PLUS AeLAGABeLISHeLUeLULeMEfPLUS ENeMUSHeNEeSHE PLUS SUM",
  "eSHITA PLUS GISH PLUS ERIN2hTENUeSHU2fPLUS SHU2eSUMeTAGeTAK4eTE PLUS A PLUS SU PLUS NAeU",
  "fPLUS AgU PLUS UeU2 PLUS ASHeUDeUSHdSQUAREDcLAGARdTIMES SHEfPLUS SUMdGUNUeOVER LAGAR GUNU SHE",
  "cLAHSHUcLALdTIMES LALcLAMdTIMES KURfPLUS RUcLIcLILcLIMMU2cLISHcLUdTIMES BADcLU2dTIMES ALeBAD",
  "eESH2fTENUeGAN2 TENUeHI TIMES BADeIMeKAD2eKAD3fPLUS ASHeKIeLA PLUS ASHeLAGABeME PLUS ENeNEeNU",
  "eSI PLUS ASHeSIK2 PLUS BUeTUG2dTENUdCROSSING LU2dOPPOSING LU2dSQUAREDdSHESHIGcLU3cLUGAL",
  "dOVER LUGALdOPPOSING LUGALdSHESHIGcLUHcLULcLUMdOVER LUMfGAR OVER GARcMAdTIMES TAK4dGUNUcMA2",
  "cMAHcMARcMASHcMASH2cMEcMEScMIcMINcMUdOVER MUcMUGdGUNUcMUNSUBcMURGU2cMUSHdTIMES AeKUReZA",
  "dOVER MUSHfTIMES A PLUS NAdCROSSING MUSHcMUSH3dTIMES AfPLUS DIeDIdGUNUcNAcNA2cNAGAdINVERTED",
  "dTIMES SHU TENUdOPPOSING NAGAcNAGARcNAM NUTILLUcNAMcNAM2cNEdTIMES AeUDdSHESHIGcNIdTIMES EcNI2",
  "cNIMdTIMES GAN2 TENUeGAR PLUS GAN2 TENUcNINDA2dTIMES ANeASHfPLUS ASHeGUDeME PLUS GAN2 TENUeNE",
  "eNUNeSHEfPLUS A ANgASHhPLUS ASHeU2 PLUS ASHeUSHcNISAGcNUcNU11cNUNdLAGAR TIMES GARfMASHfSAL",
  "gOVER NUN LAGAR TIMES SALfUSHdTENUdOVER NUNdCROSSING NUNfLAGAR OVER LAGARcNUNUZ",
  "dAB2 TIMES ASHGABfBIfDUGfGUDfIGI GUNUfKAD3fLAfNEfSILA3fU2dKISIM5 TIMES BIgUcPAcPADcPANcPAP",
  "cPESH2cPIdTIMES AeABeBIeBUeEeIeIBeUeU2dCROSSING PIcPIRIGdTIMES KALeUDeZAdOPPOSING PIRIGcRAcRAB",
  "cRIcRUcSAcSAG NUTILLUcSAGdTIMES AeDUeDUBeHAeKAKeKUReLUMeMIeNUNeSALeSHIDeTABeU2eUBeUMeUReUSH",
  "dOVER SAGdGUNUcSALdLAGAB TIMES ASH2cSANGA2cSARcSHAcSHA3dTIMES AeBADeGISHeNEeSHU2eTUReUfPLUS A",
  "cSHA6cSHAB6cSHAR2cSHEdHUdOVER SHE GAD OVER GAD GAR OVER GARfTAB OVER TAB GAR OVER GARcSHEG9",
  "cSHENcSHESHcSHESH2cSHESHLAMcSHIDdTIMES AeIMcSHIMdTIMES AeBALeBULUGeDINeGAReIGIfGUNUeKUSHU2eLUL",
  "eMUGeSALcSHINIGcSHIRdTENUdOVER SHIR BUR OVER BURcSHITAcSHUdOVER INVERTED SHUcSHU2cSHUBURcSI",
  "dGUNUcSIGcSIG4dOVER SIG4 SHU2cSIK2cSILA3cSUdOVER SUcSUDcSUD2cSUHURcSUMcSUMASHcSURcSUR9cTA",
  "dASTERISKdTIMES HIeMIdGUNUcTABdOVER TAB NI OVER NI DISH OVER DISHdSQUAREDcTAGdTIMES BIeGUDeSHE",
  "eSHUeTUG2eUDcTAK4cTARcTEdGUNUcTIdTENUcTILcTIRdTIMES TAK4dOVER TIRfGAD OVER GAD GAR OVER GARcTU",
  "cTUG2cTUKcTUMcTURdOVER TUR ZA OVER ZAcUdGUDdU UdOVER U PA OVER PA GAR OVER GARfSUR OVER SUR",
  "fU REVERSED OVER U REVERSEDcU2cUBcUDdKUSHU2dTIMES BADeMIeU PLUS U PLUS UjGUNUdGUNUdSHESHIG",
  "eTIMES BADcUDUGcUMdTIMES LAGABeME PLUS DAeSHA3eUcUMBINcUMUMdTIMES KASKALePAcUNdGUNUcUR",
  "dCROSSING URdSHESHIGcUR2dTIMES A PLUS HAgNAeALeHAeNUNeU2fPLUS ASHgBIcUR4cURIcURI3cURUdTIMES A",
  "eASHGABeBAReDUNeGAeGALeGAN2 TENUeGAReGUeHAeIGIeIMeISHeKIeLUMeMINePAeSHEeSIG4eTUeU PLUS GUDeUD",
  "eURUDAcURUDAdTIMES UcUSHdTIMES AeKUeKUReTAK4cUSHXcUSH2cUSHUMXcUTUKIcUZ3dTIMES KASKALcUZUcZA",
  "dTENUdSQUARED TIMES KURcZAGcZAMXcZE2cZIdOVER ZIcZI3cZIBdKABA TENUcZIGcZIZ2cZUcZU5dTIMES A",
  "cZUBURcZUMcKAP ELAMITEcAB TIMES NUNcAB2 TIMES AcAMAR TIMES KUGcDAG KISIM5 TIMES U2 PLUS MASH",
  "cDAG3cDISH PLUS SHUcDUB TIMES SHEcEZEN TIMES GUDeSHEcGA2 TIMES AN PLUS KAK PLUS AeASH2cGE22",
  "cGIGcHUSHcKA TIMES ANSHEeASH3eGISHeGUDeHI TIMES ASH2eLUMePAeSHULeTUeUR2cLAGAB TIMES GI",
  "cLU2 SHESHIG TIMES BADdTIMES ESH2 PLUS LALeSHUcMESHcMUSH3 TIMES ZAcNA4cNINcNIN9",
  "cNINDA2 TIMES BALeGIcNU11 ROTATED NINETY DEGREEScPESH2 ASTERISKcPIR2cSAG TIMES IGI GUNUcTI2",
  "cUM TIMES MEcU U/12400bNUMERIC SIGN TWO ASHdTHREE ASHdFOUR ASHdFIVE ASHdSIX ASHdSEVEN ASH",
  "dEIGHT ASHdNINE ASHdTHREE DISHdFOUR DISHdFIVE DISHdSIX DISHdSEVEN DISHdEIGHT DISHdNINE DISH",
  "dFOUR UdFIVE UdSIX UdSEVEN UdEIGHT UdNINE UdONE GESH2dTWO GESH2dTHREE GESH2dFOUR GESH2",
  "dFIVE GESH2dSIX GESH2dSEVEN GESH2dEIGHT GESH2dNINE GESH2dONE GESHUdTWO GESHUdTHREE GESHU",
  "dFOUR GESHUdFIVE GESHUdTWO SHAR2dTHREE SHAR2fVARIANT FORMdFOUR SHAR2dFIVE SHAR2dSIX SHAR2",
  "dSEVEN SHAR2dEIGHT SHAR2dNINE SHAR2dONE SHARUdTWO SHARUdTHREE SHARUfVARIANT FORMdFOUR SHARU",
  "dFIVE SHARUdSHAR2 TIMES GAL PLUS DISHhMINdONE BURUdTWO BURUdTHREE BURUfVARIANT FORMdFOUR BURU",
  "dFIVE BURUdTHREE VARIANT FORM ESH16gESH21dFOUR VARIANT FORM LIMMUgLIMMU4gLIMMU AhB",
  "dSIX VARIANT FORM ASH9dSEVEN VARIANT FORM IMIN3gIMIN AhBdEIGHT VARIANT FORM USSUgUSSU3",
  "dNINE VARIANT FORM ILIMMUgILIMMU3gILIMMU4gILIMMU AdTWO ASH TENUdTHREE ASH TENUdFOUR ASH TENU",
  "dFIVE ASH TENUdSIX ASH TENUdONE BAN2dTWO BAN2dTHREE BAN2dFOUR BAN2fVARIANT FORMdFIVE BAN2",
  "fVARIANT FORMdNIGIDAMINdNIGIDAESHdONE ESHE3dTWO ESHE3dONE THIRD DISHdTWO THIRDS DISH",
  "dFIVE SIXTHS DISHdONE THIRD VARIANT FORM AdTWO THIRDS VARIANT FORM AdONE EIGHTH ASH",
  "eQUARTER ASHdOLD ASSYRIAN ONE SIXTHgQUARTERdONE QUARTER GUReHALF GURdELAMITE ONE THIRD",
  "eTWO THIRDSeFORTYeFIFTYdFOUR U VARIANT FORMdFIVE U VARIANT FORMdSIX U VARIANT FORM",
  "dSEVEN U VARIANT FORMdEIGHT U VARIANT FORMdNINE U VARIANT FORM/12470",
  "bPUNCTUATION SIGN OLD ASSYRIAN WORD DIVIDERdVERTICAL COLONdDIAGONAL COLONeTRICOLONeQUADCOLON",
  "/12480bSIGN AB TIMES NUN TENUeSHU2cAD TIMES ESH2cBAD TIMES DISH TENUcBAHAR2 TIMES AB2eNIeZA",
  "cBU OVER BU TIMES NA2cDA TIMES TAK4cDAG TIMES KURcDIM TIMES IGIeU U UcDIM2 TIMES UD",
  "cDUG TIMES ANSHEeASHfAT LEFTeDINeDUNeERIN2eGAeGIeGIR2 GUNUeGISHeHAeHIeIGI GUNUeKASKALeKUR",
  "eKUSHU2fPLUS KASKALeLAK-020eLAMfTIMES KUReLUH PLUS GISHeMASHeMESeMIeNIePIeSHEeSI GUNU",
  "cE2 TIMES KURePAPcERIN2 XcESH2 CROSSING ESH2cEZEN SHESHIG TIMES ASHfHIfIGI GUNUfLAfLALfMEfMES",
  "fSUdTIMES SUcGA2 TIMES BAHAR2eDIM GUNUeDUG TIMES IGI GUNUgKASKALeERENeGAeGAR PLUS DIgNE",
  "eHA PLUS AeKUSHU2 PLUS KASKALeLAMfTIMES KUReLUHeMUSHeNEfPLUS E2gGIeSHIMeZIZ2",
  "cGABA ROTATED NINETY DEGREEScGESHTIN TIMES UcGISH TIMES GISH CROSSING GISHcGU2 TIMES IGI GUNU",
  "cGUD PLUS GISH TIMES TAK4cHA TENU GUNUcHI TIMES ASH OVER HI TIMES ASHcKA TIMES BUeKAeU U UeUR",
  "cLAGAB TIMES ZU OVER ZUcLAK-003cLAK-021cLAK-025cLAK-030cLAK-050cLAK-051cLAK-062",
  "cLAK-079 OVER LAK-079 GUNUcLAK-080cLAK-081 OVER LAK-081cLAK-092cLAK-130cLAK-142cLAK-210",
  "cLAK-219cLAK-220cLAK-225cLAK-228cLAK-238cLAK-265cLAK-266cLAK-343cLAK-347cLAK-348cLAK-383",
  "cLAK-384cLAK-390cLAK-441cLAK-449dTIMES GUeIGIePAP PLUS LU3gPAP PLUS LU3eU2 PLUS BAcLAK-450",
  "cLAK-457cLAK-470cLAK-483cLAK-490cLAK-492cLAK-493cLAK-495cLAK-550cLAK-608cLAK-617dTIMES ASHeBAD",
  "eDUN3 GUNU GUNUeKU3eLAeTAReTEeU2eUDeURUDAcLAK-636cLAK-648dTIMES DUBeGAeIGIfGUNUeNI",
  "ePAP PLUS PAP PLUS LU3eSHESH PLUS KIeUDeURUDAcLAK-724cLAK-749cLU2 GUNU TIMES ASHdTIMES DISH",
  "eHALePAPfPLUS PAP PLUS LU3eTAK4cMI PLUS ZA7cMUSH OVER MUSH TIMES GAgKAKcNINDA2 TIMES DIM GUNU",
  "eGISHeGULeHIeKESH2eLAK-050eMASHePAP PLUS PAPeUfPLUS UeURUDAcSAG GUNU TIMES HAdTIMES EN",
  "eSHE AT LEFTeTAK4cSHA6 TENUcSHE OVER SHEdPLUS HUB2eNAM2eSARcSHU2 PLUS DUG TIMES NIeE2 TIMES AN",
  "cSI TIMES TAK4cTAK4 PLUS SAGcTUM TIMES GAN2 TENUeTHREE DISHcUR2 INVERTEDdTIMES UD",
  "cURU TIMES DARA3eLAK-668eLU3cZA7cZU OVER ZU PLUS SARcZU5 TIMES THREE DISH TENU/12F90",
  "aCYPRO-MINOAN SIGN CM001cCM002cCM004cCM005cCM006cCM007cCM008cCM009cCM010cCM011cCM012cCM012B",
  "cCM013cCM015cCM017cCM019cCM021cCM023cCM024cCM025cCM026cCM027cCM028cCM029cCM030cCM033cCM034",
  "cCM035cCM036cCM037cCM038cCM039cCM040cCM041cCM044cCM046cCM047cCM049cCM050cCM051cCM052cCM053",
  "cCM054cCM055cCM056cCM058cCM059cCM060cCM061cCM062cCM063cCM064cCM066cCM067cCM068cCM069cCM070",
  "cCM071cCM072cCM073cCM074cCM075cCM075BcCM076cCM078cCM079cCM080cCM081cCM082cCM083cCM084cCM085",
  "cCM086cCM087cCM088cCM089cCM090cCM091cCM092cCM094cCM095cCM096cCM097cCM098cCM099cCM100cCM101",
  "cCM102cCM103cCM104cCM105cCM107cCM108cCM109cCM110cCM112cCM114cCM301cCM302/13000",
  "aEGYPTIAN HIEROGLYPH A001cA002cA003cA004cA005cA005AcA006cA006AcA006BcA007cA008cA009cA010cA011",
  "cA012cA013cA014cA014AcA015cA016cA017cA017AcA018cA019cA020cA021cA022cA023cA024cA025cA026cA027",
  "cA028cA029cA030cA031cA032cA032AcA033cA034cA035cA036cA037cA038cA039cA040cA040AcA041cA042cA042A",
  "cA043cA043AcA044cA045cA045AcA046cA047cA048cA049cA050cA051cA052cA053cA054cA055cA056cA057cA058",
  "cA059cA060cA061cA062cA063cA064cA065cA066cA067cA068cA069cA070cB001cB002cB003cB004cB005cB005A",
  "cB006cB007cB008cB009cC001cC002cC002AcC002BcC002CcC003cC004cC005cC006cC007cC008cC009cC010cC010A",
  "cC011cC012cC013cC014cC015cC016cC017cC018cC019cC020cC021cC022cC023cC024cD001cD002cD003cD004",
  "cD005cD006cD007cD008cD008AcD009cD010cD011cD012cD013cD014cD015cD016cD017cD018cD019cD020cD021",
  "cD022cD023cD024cD025cD026cD027cD027AcD028cD029cD030cD031cD031AcD032cD033cD034cD034AcD035cD036",
  "cD037cD038cD039cD040cD041cD042cD043cD044cD045cD046cD046AcD047cD048cD048AcD049cD050cD050AcD050B",
  "cD050CcD050DcD050EcD050FcD050GcD050HcD050IcD051cD052cD052AcD053cD054cD054AcD055cD056cD057cD058",
  "cD059cD060cD061cD062cD063cD064cD065cD066cD067cD067AcD067BcD067CcD067DcD067EcD067FcD067GcD067H",
  "cE001cE002cE003cE004cE005cE006cE007cE008cE008AcE009cE009AcE010cE011cE012cE013cE014cE015cE016",
  "cE016AcE017cE017AcE018cE019cE020cE020AcE021cE022cE023cE024cE025cE026cE027cE028cE028AcE029cE030",
  "cE031cE032cE033cE034cE034AcE036cE037cE038cF001cF001AcF002cF003cF004cF005cF006cF007cF008cF009",
  "cF010cF011cF012cF013cF013AcF014cF015cF016cF017cF018cF019cF020cF021cF021AcF022cF023cF024cF025",
  "cF026cF027cF028cF029cF030cF031cF031AcF032cF033cF034cF035cF036cF037cF037AcF038cF038AcF039cF040",
  "cF041cF042cF043cF044cF045cF045AcF046cF046AcF047cF047AcF048cF049cF050cF051cF051AcF051BcF051C",
  "cF052cF053cG001cG002cG003cG004cG005cG006cG006AcG007cG007AcG007BcG008cG009cG010cG011cG011AcG012",
  "cG013cG014cG015cG016cG017cG018cG019cG020cG020AcG021cG022cG023cG024cG025cG026cG026AcG027cG028",
  "cG029cG030cG031cG032cG033cG034cG035cG036cG036AcG037cG037AcG038cG039cG040cG041cG042cG043cG043A",
  "cG044cG045cG045AcG046cG047cG048cG049cG050cG051cG052cG053cG054cH001cH002cH003cH004cH005cH006",
  "cH006AcH007cH008cI001cI002cI003cI004cI005cI005AcI006cI007cI008cI009cI009AcI010cI010AcI011",
  "cI011AcI012cI013cI014cI015cK001cK002cK003cK004cK005cK006cK007cK008cL001cL002cL002AcL003cL004",
  "cL005cL006cL006AcL007cL008cM001cM001AcM001BcM002cM003cM003AcM004cM005cM006cM007cM008cM009cM010",
  "cM010AcM011cM012cM012AcM012BcM012CcM012DcM012EcM012FcM012GcM012HcM013cM014cM015cM015AcM016",
  "cM016AcM017cM017AcM018cM019cM020cM021cM022cM022AcM023cM024cM024AcM025cM026cM027cM028cM028A",
  "cM029cM030cM031cM031AcM032cM033cM033AcM033BcM034cM035cM036cM037cM038cM039cM040cM040AcM041cM042",
  "cM043cM044cN001cN002cN003cN004cN005cN006cN007cN008cN009cN010cN011cN012cN013cN014cN015cN016",
  "cN017cN018cN018AcN018BcN019cN020cN021cN022cN023cN024cN025cN025AcN026cN027cN028cN029cN030cN031",
  "cN032cN033cN033AcN034cN034AcN035cN035AcN036cN037cN037AcN038cN039cN040cN041cN042cNL001cNL002",
  "cNL003cNL004cNL005cNL005AcNL006cNL007cNL008cNL009cNL010cNL011cNL012cNL013cNL014cNL015cNL016",
  "cNL017cNL017AcNL018cNL019cNL020cNU001cNU002cNU003cNU004cNU005cNU006cNU007cNU008cNU009cNU010",
  "cNU010AcNU011cNU011AcNU012cNU013cNU014cNU015cNU016cNU017cNU018cNU018AcNU019cNU020cNU021cNU022",
  "cNU022AcO001cO001AcO002cO003cO004cO005cO005AcO006cO006AcO006BcO006CcO006DcO006EcO006FcO007",
  "cO008cO009cO010cO010AcO010BcO010CcO011cO012cO013cO014cO015cO016cO017cO018cO019cO019AcO020",
  "cO020AcO021cO022cO023cO024cO024AcO025cO025AcO026cO027cO028cO029cO029AcO030cO030AcO031cO032",
  "cO033cO033AcO034cO035cO036cO036AcO036BcO036CcO036DcO037cO038cO039cO040cO041cO042cO043cO044",
  "cO045cO046cO047cO048cO049cO050cO050AcO050BcO051cP001cP001AcP002cP003cP003AcP004cP005cP006cP007",
  "cP008cP009cP010cP011cQ001cQ002cQ003cQ004cQ005cQ006cQ007cR001cR002cR002AcR003cR003AcR003BcR004",
  "cR005cR006cR007cR008cR009cR010cR010AcR011cR012cR013cR014cR015cR016cR016AcR017cR018cR019cR020",
  "cR021cR022cR023cR024cR025cR026cR027cR028cR029cS001cS002cS002AcS003cS004cS005cS006cS006AcS007",
  "cS008cS009cS010cS011cS012cS013cS014cS014AcS014BcS015cS016cS017cS017AcS018cS019cS020cS021cS022",
  "cS023cS024cS025cS026cS026AcS026BcS027cS028cS029cS030cS031cS032cS033cS034cS035cS035AcS036cS037",
  "cS038cS039cS040cS041cS042cS043cS044cS045cS046cT001cT002cT003cT003AcT004cT005cT006cT007cT007A",
  "cT008cT008AcT009cT009AcT010cT011cT011AcT012cT013cT014cT015cT016cT016AcT017cT018cT019cT020cT021",
  "cT022cT023cT024cT025cT026cT027cT028cT029cT030cT031cT032cT032AcT033cT033AcT034cT035cT036cU001",
  "cU002cU003cU004cU005cU006cU006AcU006BcU007cU008cU009cU010cU011cU012cU013cU014cU015cU016cU017",
  "cU018cU019cU020cU021cU022cU023cU023AcU024cU025cU026cU027cU028cU029cU029AcU030cU031cU032cU032A",
  "cU033cU034cU035cU036cU037cU038cU039cU040cU041cU042cV001cV001AcV001BcV001CcV001DcV001EcV001F",
  "cV001GcV001HcV001IcV002cV002AcV003cV004cV005cV006cV007cV007AcV007BcV008cV009cV010cV011cV011A",
  "cV011BcV011CcV012cV012AcV012BcV013cV014cV015cV016cV017cV018cV019cV020cV020AcV020BcV020CcV020D",
  "cV020EcV020FcV020GcV020HcV020IcV020JcV020KcV020LcV021cV022cV023cV023AcV024cV025cV026cV027cV028",
  "cV028AcV029cV029AcV030cV030AcV031cV031AcV032cV033cV033AcV034cV035cV036cV037cV037AcV038cV039",
  "cV040cV040AcW001cW002cW003cW003AcW004cW005cW006cW007cW008cW009cW009AcW010cW010AcW011cW012cW013",
  "cW014cW014AcW015cW016cW017cW017AcW018cW018AcW019cW020cW021cW022cW023cW024cW024AcW025cX001cX002",
  "cX003cX004cX004AcX004BcX005cX006cX006AcX007cX008cX008AcY001cY001AcY002cY003cY004cY005cY006",
  "cY007cY008cZ001cZ002cZ002AcZ002BcZ002CcZ002DcZ003cZ003AcZ003BcZ004cZ004AcZ005cZ005AcZ006cZ007",
  "cZ008cZ009cZ010cZ011cZ012cZ013cZ014cZ015cZ015AcZ015BcZ015CcZ015DcZ015EcZ015FcZ015GcZ015HcZ015I",
  "cZ016cZ016AcZ016BcZ016CcZ016DcZ016EcZ016FcZ016GcZ016HcAA001cAA002cAA003cAA004cAA005cAA006",
  "cAA007cAA007AcAA007BcAA008cAA009cAA010cAA011cAA012cAA013cAA014cAA015cAA016cAA017cAA018cAA019",
  "cAA020cAA021cAA022cAA023cAA024cAA025cAA026cAA027cAA028cAA029cAA030cAA031cAA032cV011D",
  "cVERTICAL JOINERcHORIZONTAL JOINERcINSERT AT TOP STARTeBOTTOM STARTeTOP ENDeBOTTOM END",
  "cOVERLAY MIDDLEcBEGIN SEGMENTcEND SEGMENTcINSERT AT MIDDLEeTOPeBOTTOMcBEGIN ENCLOSURE",
  "cEND ENCLOSUREcBEGIN WALLED ENCLOSUREcEND WALLED ENCLOSUREcMIRROR HORIZONTALLYcFULL BLANK",
  "cHALF BLANKcLOST SIGNcHALF LOST SIGNcTALL LOST SIGNcWIDE LOST SIGN",
  "cMODIFIER DAMAGED AT TOP STARTfBOTTOM STARTfSTARTfTOP ENDfTOPfBOTTOM START AND TOP END",
  "fSTART AND TOPfBOTTOM ENDfTOP START AND BOTTOM ENDfBOTTOMfSTART AND BOTTOMfENDfTOP AND END",
  "fBOTTOM AND ENDdDAMAGED/14400aANATOLIAN HIEROGLYPH A001cA002cA003cA004cA005cA006cA007cA008",
  "cA009cA010cA010AcA011cA012cA013cA014cA015cA016cA017cA018cA019cA020cA021cA022cA023cA024cA025",
  "cA026cA026AcA027cA028cA029cA030cA031cA032cA033cA034cA035cA036cA037cA038cA039cA039AcA040cA041",
  "cA041AcA042cA043cA044cA045cA045AcA046cA046AcA046BcA047cA048cA049cA050cA051cA052cA053cA054cA055",
  "cA056cA057cA058cA059cA060cA061cA062cA063cA064cA065cA066cA066AcA066BcA066CcA067cA068cA069cA070",
  "cA071cA072cA073cA074cA075cA076cA077cA078cA079cA080cA081cA082cA083cA084cA085cA086cA087cA088",
  "cA089cA090cA091cA092cA093cA094cA095cA096cA097cA097AcA098cA098AcA099cA100cA100AcA101cA101AcA102",
  "cA102AcA103cA104cA104AcA104BcA104CcA105cA105AcA105BcA106cA107cA107AcA107BcA107CcA108cA109cA110",
  "cA110AcA110BcA111cA112cA113cA114cA115cA115AcA116cA117cA118cA119cA120cA121cA122cA123cA124cA125",
  "cA125AcA126cA127cA128cA129cA130cA131cA132cA133cA134cA135cA135AcA136cA137cA138cA139cA140cA141",
  "cA142cA143cA144cA145cA146cA147cA148cA149cA150cA151cA152cA153cA154cA155cA156cA157cA158cA159",
  "cA160cA161cA162cA163cA164cA165cA166cA167cA168cA169cA170cA171cA172cA173cA174cA175cA176cA177",
  "cA178cA179cA180cA181cA182cA183cA184cA185cA186cA187cA188cA189cA190cA191cA192cA193cA194cA195",
  "cA196cA197cA198cA199cA200cA201cA202cA202AcA202BcA203cA204cA205cA206cA207cA207AcA208cA209cA209A",
  "cA210cA211cA212cA213cA214cA215cA215AcA216cA216AcA217cA218cA219cA220cA221cA222cA223cA224cA225",
  "cA226cA227cA227AcA228cA229cA230cA231cA232cA233cA234cA235cA236cA237cA238cA239cA240cA241cA242",
  "cA243cA244cA245cA246cA247cA248cA249cA250cA251cA252cA253cA254cA255cA256cA257cA258cA259cA260",
  "cA261cA262cA263cA264cA265cA266cA267cA267AcA268cA269cA270cA271cA272cA273cA274cA275cA276cA277",
  "cA278cA279cA280cA281cA282cA283cA284cA285cA286cA287cA288cA289cA289AcA290cA291cA292cA293cA294",
  "cA294AcA295cA296cA297cA298cA299cA299AcA300cA301cA302cA303cA304cA305cA306cA307cA308cA309cA309A",
  "cA310cA311cA312cA313cA314cA315cA316cA317cA318cA319cA320cA321cA322cA323cA324cA325cA326cA327",
  "cA328cA329cA329AcA330cA331cA332AcA332BcA332CcA333cA334cA335cA336cA336AcA336BcA336CcA337cA338",
  "cA339cA340cA341cA342cA343cA344cA345cA346cA347cA348cA349cA350cA351cA352cA353cA354cA355cA356",
  "cA357cA358cA359cA359AcA360cA361cA362cA363cA364cA364AcA365cA366cA367cA368cA368AcA369cA370cA371",
  "cA371AcA372cA373cA374cA375cA376cA377cA378cA379cA380cA381cA381AcA382cA383 RA OR RIcA383AcA384",
  "cA385cA386cA386AcA387cA388cA389cA390cA391cA392cA393 EIGHTcA394cA395cA396cA397cA398cA399cA400",
  "cA401cA402cA403cA404cA405cA406cA407cA408cA409cA410 BEGIN LOGOGRAM MARKcA410A END LOGOGRAM MARK",
  "cA411cA412cA413cA414cA415cA416cA417cA418cA419cA420cA421cA422cA423cA424cA425cA426cA427cA428",
  "cA429cA430cA431cA432cA433cA434cA435cA436cA437cA438cA439cA440cA441cA442cA443cA444cA445cA446",
  "cA447cA448cA449cA450cA450AcA451cA452cA453cA454cA455cA456cA457cA457AcA458cA459cA460cA461cA462",
  "cA463cA464cA465cA466cA467cA468cA469cA470cA471cA472cA473cA474cA475cA476cA477cA478cA479cA480",
  "cA481cA482cA483cA484cA485cA486cA487cA488cA489cA490cA491cA492cA493cA494cA495cA496cA497cA501",
  "cA502cA503cA504cA505cA506cA507cA508cA509cA510cA511cA512cA513cA514cA515cA516cA517cA518cA519",
  "cA520cA521cA522cA523cA524cA525cA526cA527cA528cA529cA530/16800aBAMUM LETTER PHASE-A NGKUE MFON",
  "dGBIEE FONdPON MFON PIPAEMGBIEEfPIPAEMBAdNAA MFONdSHUENSHUETdTITA MFONdNZA MFONdSHINDA PA NJI",
  "dPON PA NJI PIPAEMGBIEEgPIPAEMBAdMAEMBGBIEEdTU MAEMBAdNGANGUdMAEMVEUXdMANSUAEdMVEUAENGAM",
  "dSEUNYAMdNTOQPENdKEUKEUTNDAdNKINDIdSUUdNGKUENZEUMdLAPAQdLET KUTdNTAP MFAAdMAEKEUPdPASHAE",
  "dGHEUAERAEdPAMSHAEdMON NGGEUAETdNZUN MEUTdU YUQ NAEdGHEUAEGHEUAEdNTAP NTAAdSISAdMGBASA",
  "dMEUNJOMNDEUQdMOOMPUQdKAFAdPA LEERAEWAdNDA LEERAEWAdPETdMAEMKPENdNIKAdPUPdTUAEPdLUAEPdSONJAM",
  "dTEUTEUWENdMAENYIdKETdNDAANGGEUAETdKUOQdMOOMEUTdSHUMdLOMMAEdFIRIdROMdKPOQdSOQdMAP PIEETdSHIRAE",
  "dNTAPdSHOQ NSHUT YUMdNYIT MONGKEUAEQdPAARAEdNKAARAEdUNKNOWNdNGGENdMAESIdNJAMdMBANYIdNYET",
  "dTEUAENdSOTdPAAMdNSHIEEdMAEMdNYIdKAQdNSHAdVEEdLUdNENdNAQdMBAQcPHASE-B NSHUETdTU MAEMGBIEEdSIEE",
  "dSET TUdLOM NTEUMdMBA MAELEEdKIEEMdYEURAEdMBAARAEdKAMdPEESHIdYAFU LEERAEWAdLAM NSHUT NYAM",
  "dNTIEE SHEUOQdNDU NJAAdGHEUGHEUAEMdPITdTU NSIEEdSHET NJAQdSHEUAEQTUdMFON TEUAEQdMBIT MBAAKET",
  "dNYI NTEUMdKEUPUQdGHEUGHENdKEUYEUXdLAANAEdPARUMdVEUMdNGKINDI MVOPdNGGEU MBUdWUAETdSAKEUAEdTAAM",
  "dMEUQdNGGUOQeLARGEdMFIYAQdSUEdMBEURIdMONTIEENdNYAEMAEdPUNGAAMdMEUT NGGEETdFEUXdMBUOQdFEE",
  "dKEUAEMdMA NJEUAENAeNJUQAdLETdNGGAAMdNSENdMAdKIQdNGOMcPHASE-C NGKUE MAEMBAdNZAdYUMdWANGKUOQ",
  "dNGGENdNDEUAEREEdNGKAQdGHARAEdMBEEKEETdGBAYIdNYIR MKPARAQ MEUNdNTU MBITdMBEUMdPIRIEENdNDOMBU",
  "dMBAA CABBAGE-TREEdKEUSHEUAEPdGHAPdKEUKAQdYU MUOMAEdNZEUMdMBUEdNSEUAENdMBITdYEUQdKPARAQdKAA",
  "dSEUXdNDIDAdTAASHAEdNJUEQdTITA YUEdSUAETdNGGUAEN NYAMdVEUXdNANSANAQdMA KEUAERIdNTAAdNGGUONdLAP",
  "dMBIRIEENdMGBASAQdNTEUNGBAdTEUTEUXdNGGUMdFUEdNDEUTdNSAdNSHAQdBUNGdVEUAEPENdMBERAEdRUdNJAEMdLAM",
  "dTITUAEPdNSUOT NGOMdNJEEEEdKETdNGGUdMAESIdMBUAEMdLUdKUTdNJAMdNGOMdWUPdNGGUEETdNSOMdNTEN",
  "dKUOP NKAARAEdNSUNdNDAMdMA NSIEEdYAAdNDAPdSHUEQdSETFONdMBIdMAEMBAdMBANYIdKEUSEUXdMBEUXdKEUM",
  "dMBAA PICKETdYUWOQdNJEUXdMIEEdMUAEdSHIQdKEN LAWeFATIGUEdNGAQdNAQdLIQdPINdPENdTETcPHASE-D MBUO",
  "dWAPdNJIdMFONdNJIEEdLIEEdNJEUTdNSHEEdNGGAAMAEdNYAMdWUAENdNGKUNdSHEEdNGKAPdKEUAETMEUNdTEUT",
  "dSHEUAEdNJAPdSUEdKETdYAEMMAEdKUOMdSAPdMFEUTdNDEUXdMALEERIdMEUTdSEUAEQdYENdNJEUAEMdKEUOT MBUAE",
  "dNGKEURIdTUdGHAAdNGKYEEdFEUFEUAETdNDEEdMGBOFUMdLEUAEPdNDONdMONIdMGBEUNdPUUTdMGBIEEdMFOdLUM",
  "dNSIEEPdMBAAdKWAETdNYETdTEUAENdSOTdYUWOQdKEUMdRAEMdTEEEEdNGKEUAEQdMFEUAEdNSIEETdKEUPdPIP",
  "dPEUTAEdNYUEdLETdNGGAAMdMFIEEdNGGWAENdYUOMdPAPdYUOPdNDAMdNTEUMdSUAEdKUNdNGGEUXdNGKIEEdTUOT",
  "dMEUNdKUQdNSUMdTEUNdMAENJETdNGGAPdLEUMdNGGUOMdNSHUTdNJUEQdGHEUAEdKUdREN OLDdTAEdTOQdNYIdRII",
  "dLEEEEdMEEEEdMdSUUdMUdSHIIdSHEUXdKYEEdNUdSHUdNTEEdPEEdNIdSHOQdPUQdMVOPdLOQdREN MUCHdTIdNTUU",
  "dMBAA SEVENdSAQdFAAcPHASE-E NDAPdTOONdMBEUMdLAPdVOMdLOONdPAAdSOMdRAQdNSHUOPdNDUNdPUAEdTAMdNGKA",
  "dKPEUXdWUOdSEEdNGGEUAETdPAAMdTOOdKUOPdLOMdNSHIEEdNGOPdMAEMdNGKEUXdNGOQdNSHUEdRIMGBAdNJEUXdPEEM",
  "dSAAdNGGURAEdMGBAdGHEUXdNGKEUAEMdNJAEMLIdMAPdLOOTdNGGEEEEdNDIQdTAEN NTEUMdSETdPUM",
  "dNDAA SOFTNESSdNGGUAESHAE NYAMdYIEEdGHEUNdTUAEdYEUAEdPOdTUMAEdKEUAEdSUAENdTEUAEQdVEUAEdWEUX",
  "dLAAMdPUdTAAQdGHAAMAEdNGEUREUTdSHEUAEQdMGBENdMBEEdNZAQdNKOMdGBETdTUMdKUETdYAPdNYI CLEAVERdYIT",
  "dMFEUQdNDIAQdPIEEQdYUEQdLEUAEMdFUEdGBEUXdNGKUPdKETdMAEdNGKAAMIdGHETdFAdNTUMdPEUTdYEUMdNGGEUAE",
  "dNYI BETWEENdNZUQdPOONdMIEEdFUETdNAEdMUAEdGHEUAEdFU IdMVIdPUAQdNGKUMdKUTdPIETdNTAPdYEUAET",
  "dNGGUPdPA PEOPLEdFU CALLdFOMdNJEEdAdTOQdOdIdLAQdPA PLURALdTAAdTAQdNDAA MY HOUSEdSHIQdYEUX",
  "dNGUAEdYUAENdYOQ SWIMMINGeCOVERdYUQdYUNdKEUXdPEUXdNJEE EPOCHdPUEdWUEdFEEdVEEdLUdMIdREUXdRAE",
  "dNGUAETdNGAdSHOdSHOQdFU REMEDYdNAdPIdLOQdKOdMENdMAdMAQdTEUdKIdMONdTENdFAQdGHOMcPHASE-F KAdUdKU",
  "dEEdREEdTAEdNYIdLAdRIIdRIEEdMEEEEdTAAdNDAAdNJAEMdMdSUUdSHIIdSIdSEUXdKYEEdKETdNUAEdNUdNJUAEdYOQ",
  "dSHUdYAdNSHAdPEUXdNTEEdWUEdPEEdRUdNIdREUXdKENdNGKWAENdNGGAdSHOdPUAEdFOMdWAdLIdLOQdKOdMBENdREN",
  "dMAdMOdMBAAdTETdKPAdSAMBAdVUEQ/16A40aMRO LETTER TAcNGIcYOcMIMcBAcDAcAcPHIcKHAIcHAOcDAIcCHU",
  "cKEAAEcOLcMAEMcNINcPAcOOcOcROcSHIcTHEAcEAcWAcEcKOcLANcLAcHAIcRIcTEK/16A60bDIGIT ZEROcONEcTWO",
  "cTHREEcFOURcFIVEcSIXcSEVENcEIGHTcNINE/16A6EbDANDAbDOUBLE DANDAaTANGSA LETTER OZcOCcOQcOXcAZcAC",
  "cAQcAXcVZcVCcVQcVXcEZcECcEQcEXcIZcICcIQcIXcUZcUCcUQcUXcAWZcAWCcAWQcAWXcUIZcUICcUIQcUIX",
  "cFINAL NGcLONG UEXcSHORT UEZdAWXcUECcUEZcUEQcUEXcUIUZcUIUCcUIUQcUIUXcMZcMCcMQcMXcKAcKHAcGAcNGA",
  "cSAcYAcWAcPAcNYAcPHAcBAcMAcNAcHAcLAcHTAcTAcDAcRAcNHAcSHAcCAcTSAcGHAcHTTAcTHAcXAcFAcDHAcCHAcZA",
  "/16AC0bDIGIT ZEROcONEcTWOcTHREEcFOURcFIVEcSIXcSEVENcEIGHTcNINE/16AD0aBASSA VAH LETTER ENNIdKA",
  "dSEdFAdMBEdYIEdGAHdDHIIdKPAHdJOdHWAHdWAdZOdGBUdDOdCEdUWUdTOdBAdVUdYEINdPAdWADDAdAdOdOOdUdEEdE",
  "dI/16AF0cCOMBINING HIGH TONEdLOW TONEdMID TONEdLOW-MID TONEdHIGH-LOW TONEcFULL STOP/16B00",
  "aPAHAWH HMONG VOWEL KEEBdKEEVdKIBdKIVdKAUBdKAUVdKUBdKUVdKEBdKEVdKAIBdKAIVdKOOBdKOOVdKAWBdKAWV",
  "dKUABdKUAVdKOBdKOVdKIABdKIAVdKABdKAVdKWBdKWVdKAABdKAAVcCONSONANT VAUdNTSAUdLAUdHAUdNLAUdRAU",
  "dNKAUdQHAUdYAUdHLAUdMAUdCHAUdNCHAUdHNAUdPLHAUdNTHAUdNAUdAUdXAUdCAUcMARK CIM TUBeSOeKESeKHAV",
  "eSUAMeHOMeTAUMcSIGN VOS THOMeTSHAB CEEBdCIM CHEEMdVOS THIABeFEEMdXYEEM NTXIVeRHOeTOVeFAIB",
  "dVOS SEEVdMEEJ SUABdVOS NRUAdIB YAMdXAUSdCIM TSOV ROG/16B50cDIGIT ZEROdONEdTWOdTHREEdFOURdFIVE",
  "dSIXdSEVENdEIGHTdNINE/16B5BcNUMBER TENSdHUNDREDSdTEN THOUSANDSdMILLIONSdHUNDRED MILLIONS",
  "dTEN BILLIONSdTRILLIONS/16B63cSIGN VOS LUBdXYOOdHLIdTHIRD-STAGE HLIdZWJ THAJdHNUBdNQIGdXIAB",
  "dNTUJdAVdTXHEEJ CEEVdMEEJ TSEEBdTAUdLOSdMUSdCIM HAIS LUS NTOG NTOGeCUAM TSHOOJeTXWVfCHWV",
  "ePUB DAWBeNRES TOS/16B7DcCLAN SIGN TSHEEJeYEEGeLISeLAUJeXYOOJeKOOeHAWJeMUASeTHOJeTSABePHAB",
  "eKHABeHAMeVAJeFAJeYAJeTSWBeKWMeVWJ/16E40aMEDEFAIDRIN CAPITAL LETTER MdSdVdWdATIUdZdKPdPdTdGdF",
  "dIdKdAdJdEdBdCdUdYUdLdQdHPdNYdXdDdOEdNdRdOdAIdYbSMALL LETTER MdSdVdWdATIUdZdKPdPdTdGdFdIdKdAdJ",
  "dEdBdCdUdYUdLdQdHPdNYdXdDdOEdNdRdOdAIdYbDIGIT ZEROcONEcTWOcTHREEcFOURcFIVEcSIXcSEVENcEIGHT",
  "cNINEbNUMBER TENcELEVENcTWELVEcTHIRTEENcFOURTEENcFIFTEENcSIXTEENcSEVENTEENcEIGHTEENcNINETEEN",
  "bDIGIT ONE ALTERNATE FORMcTWO ALTERNATE FORMcTHREE ALTERNATE FORMbCOMMAbFULL STOPbSYMBOL AIVA",
  "bEXCLAMATION OH/16F00aMIAO LETTER PAcBAcYI PAcPLAcMAcMHAcARCHAIC MAcFAcVAcVFAcTAcDAcYI TTAdTA",
  "cTTAcDDAcNAcNHAcYI NNAcARCHAIC NAcNNAcNNHAcLAcLYAcLHAcLHYAcTLHAcDLHAcTLHYAcDLHYAcKAcGAcYI KA",
  "cQAcQGAcNGAcNGHAcARCHAIC NGAcHAcXAcGHAcGHHAcTSSAcDZZAcNYAcNYHAcTSHAcDZHAcYI TSHAdDZHA",
  "cREFORMED TSHAcSHAcSSAcZHAcZSHAcTSAcDZAcYI TSAcSAcZAcZSAcZZAcZZSAcARCHAIC ZZAcZZYAcZZSYAcWAcAH",
  "cHHAcBRIcSYIcDZYIcTEcTSEcRTE/16F4FbSIGN CONSONANT MODIFIER BARbLETTER NASALIZATION",
  "bSIGN ASPIRATIONcREFORMED VOICINGdASPIRATIONbVOWEL SIGN AdAAdAHHdANdANGdOdOOdWOdWdEdENdENGdOEY",
  "dIdIAdIANdIANGdIOdIEdIIdIUdINGdUdUAdUANdUANGdUUdUEIdUNGdYdYIdAEdAEEdERRdROUNDED ERRdER",
  "dROUNDED ERdAIdEIdAUdOUdNdNGdUOGdYUIdOGdOERdVWdIGdEAdIONGdUI/16F8FbTONE RIGHTcTOP RIGHTcABOVE",
  "cBELOWbLETTER TONE-2cTONE-3cTONE-4cTONE-5cTONE-6cTONE-7cTONE-8cREFORMED TONE-1dTONE-2dTONE-4",
  "dTONE-5dTONE-6dTONE-8/16FE0aTANGUT ITERATION MARKaNUSHU ITERATION MARKaOLD CHINESE HOOK MARK",
  "cITERATION MARKaKHITAN SMALL SCRIPT FILLER/16FF0aVIETNAMESE ALTERNATE READING MARK CAeNHAY",
  "/18800aTANGUT COMPONENT-001bCOMPONENT-002bCOMPONENT-003bCOMPONENT-004bCOMPONENT-005",
  "bCOMPONENT-006bCOMPONENT-007bCOMPONENT-008bCOMPONENT-009bCOMPONENT-010bCOMPONENT-011",
  "bCOMPONENT-012bCOMPONENT-013bCOMPONENT-014bCOMPONENT-015bCOMPONENT-016bCOMPONENT-017",
  "bCOMPONENT-018bCOMPONENT-019bCOMPONENT-020bCOMPONENT-021bCOMPONENT-022bCOMPONENT-023",
  "bCOMPONENT-024bCOMPONENT-025bCOMPONENT-026bCOMPONENT-027bCOMPONENT-028bCOMPONENT-029",
  "bCOMPONENT-030bCOMPONENT-031bCOMPONENT-032bCOMPONENT-033bCOMPONENT-034bCOMPONENT-035",
  "bCOMPONENT-036bCOMPONENT-037bCOMPONENT-038bCOMPONENT-039bCOMPONENT-040bCOMPONENT-041",
  "bCOMPONENT-042bCOMPONENT-043bCOMPONENT-044bCOMPONENT-045bCOMPONENT-046bCOMPONENT-047",
  "bCOMPONENT-048bCOMPONENT-049bCOMPONENT-050bCOMPONENT-051bCOMPONENT-052bCOMPONENT-053",
  "bCOMPONENT-054bCOMPONENT-055bCOMPONENT-056bCOMPONENT-057bCOMPONENT-058bCOMPONENT-059",
  "bCOMPONENT-060bCOMPONENT-061bCOMPONENT-062bCOMPONENT-063bCOMPONENT-064bCOMPONENT-065",
  "bCOMPONENT-066bCOMPONENT-067bCOMPONENT-068bCOMPONENT-069bCOMPONENT-070bCOMPONENT-071",
  "bCOMPONENT-072bCOMPONENT-073bCOMPONENT-074bCOMPONENT-075bCOMPONENT-076bCOMPONENT-077",
  "bCOMPONENT-078bCOMPONENT-079bCOMPONENT-080bCOMPONENT-081bCOMPONENT-082bCOMPONENT-083",
  "bCOMPONENT-084bCOMPONENT-085bCOMPONENT-086bCOMPONENT-087bCOMPONENT-088bCOMPONENT-089",
  "bCOMPONENT-090bCOMPONENT-091bCOMPONENT-092bCOMPONENT-093bCOMPONENT-094bCOMPONENT-095",
  "bCOMPONENT-096bCOMPONENT-097bCOMPONENT-098bCOMPONENT-099bCOMPONENT-100bCOMPONENT-101",
  "bCOMPONENT-102bCOMPONENT-103bCOMPONENT-104bCOMPONENT-105bCOMPONENT-106bCOMPONENT-107",
  "bCOMPONENT-108bCOMPONENT-109bCOMPONENT-110bCOMPONENT-111bCOMPONENT-112bCOMPONENT-113",
  "bCOMPONENT-114bCOMPONENT-115bCOMPONENT-116bCOMPONENT-117bCOMPONENT-118bCOMPONENT-119",
  "bCOMPONENT-120bCOMPONENT-121bCOMPONENT-122bCOMPONENT-123bCOMPONENT-124bCOMPONENT-125",
  "bCOMPONENT-126bCOMPONENT-127bCOMPONENT-128bCOMPONENT-129bCOMPONENT-130bCOMPONENT-131",
  "bCOMPONENT-132bCOMPONENT-133bCOMPONENT-134bCOMPONENT-135bCOMPONENT-136bCOMPONENT-137",
  "bCOMPONENT-138bCOMPONENT-139bCOMPONENT-140bCOMPONENT-141bCOMPONENT-142bCOMPONENT-143",
  "bCOMPONENT-144bCOMPONENT-145bCOMPONENT-146bCOMPONENT-147bCOMPONENT-148bCOMPONENT-149",
  "bCOMPONENT-150bCOMPONENT-151bCOMPONENT-152bCOMPONENT-153bCOMPONENT-154bCOMPONENT-155",
  "bCOMPONENT-156bCOMPONENT-157bCOMPONENT-158bCOMPONENT-159bCOMPONENT-160bCOMPONENT-161",
  "bCOMPONENT-162bCOMPONENT-163bCOMPONENT-164bCOMPONENT-165bCOMPONENT-166bCOMPONENT-167",
  "bCOMPONENT-168bCOMPONENT-169bCOMPONENT-170bCOMPONENT-171bCOMPONENT-172bCOMPONENT-173",
  "bCOMPONENT-174bCOMPONENT-175bCOMPONENT-176bCOMPONENT-177bCOMPONENT-178bCOMPONENT-179",
  "bCOMPONENT-180bCOMPONENT-181bCOMPONENT-182bCOMPONENT-183bCOMPONENT-184bCOMPONENT-185",
  "bCOMPONENT-186bCOMPONENT-187bCOMPONENT-188bCOMPONENT-189bCOMPONENT-190bCOMPONENT-191",
  "bCOMPONENT-192bCOMPONENT-193bCOMPONENT-194bCOMPONENT-195bCOMPONENT-196bCOMPONENT-197",
  "bCOMPONENT-198bCOMPONENT-199bCOMPONENT-200bCOMPONENT-201bCOMPONENT-202bCOMPONENT-203",
  "bCOMPONENT-204bCOMPONENT-205bCOMPONENT-206bCOMPONENT-207bCOMPONENT-208bCOMPONENT-209",
  "bCOMPONENT-210bCOMPONENT-211bCOMPONENT-212bCOMPONENT-213bCOMPONENT-214bCOMPONENT-215",
  "bCOMPONENT-216bCOMPONENT-217bCOMPONENT-218bCOMPONENT-219bCOMPONENT-220bCOMPONENT-221",
  "bCOMPONENT-222bCOMPONENT-223bCOMPONENT-224bCOMPONENT-225bCOMPONENT-226bCOMPONENT-227",
  "bCOMPONENT-228bCOMPONENT-229bCOMPONENT-230bCOMPONENT-231bCOMPONENT-232bCOMPONENT-233",
  "bCOMPONENT-234bCOMPONENT-235bCOMPONENT-236bCOMPONENT-237bCOMPONENT-238bCOMPONENT-239",
  "bCOMPONENT-240bCOMPONENT-241bCOMPONENT-242bCOMPONENT-243bCOMPONENT-244bCOMPONENT-245",
  "bCOMPONENT-246bCOMPONENT-247bCOMPONENT-248bCOMPONENT-249bCOMPONENT-250bCOMPONENT-251",
  "bCOMPONENT-252bCOMPONENT-253bCOMPONENT-254bCOMPONENT-255bCOMPONENT-256bCOMPONENT-257",
  "bCOMPONENT-258bCOMPONENT-259bCOMPONENT-260bCOMPONENT-261bCOMPONENT-262bCOMPONENT-263",
  "bCOMPONENT-264bCOMPONENT-265bCOMPONENT-266bCOMPONENT-267bCOMPONENT-268bCOMPONENT-269",
  "bCOMPONENT-270bCOMPONENT-271bCOMPONENT-272bCOMPONENT-273bCOMPONENT-274bCOMPONENT-275",
  "bCOMPONENT-276bCOMPONENT-277bCOMPONENT-278bCOMPONENT-279bCOMPONENT-280bCOMPONENT-281",
  "bCOMPONENT-282bCOMPONENT-283bCOMPONENT-284bCOMPONENT-285bCOMPONENT-286bCOMPONENT-287",
  "bCOMPONENT-288bCOMPONENT-289bCOMPONENT-290bCOMPONENT-291bCOMPONENT-292bCOMPONENT-293",
  "bCOMPONENT-294bCOMPONENT-295bCOMPONENT-296bCOMPONENT-297bCOMPONENT-298bCOMPONENT-299",
  "bCOMPONENT-300bCOMPONENT-301bCOMPONENT-302bCOMPONENT-303bCOMPONENT-304bCOMPONENT-305",
  "bCOMPONENT-306bCOMPONENT-307bCOMPONENT-308bCOMPONENT-309bCOMPONENT-310bCOMPONENT-311",
  "bCOMPONENT-312bCOMPONENT-313bCOMPONENT-314bCOMPONENT-315bCOMPONENT-316bCOMPONENT-317",
  "bCOMPONENT-318bCOMPONENT-319bCOMPONENT-320bCOMPONENT-321bCOMPONENT-322bCOMPONENT-323",
  "bCOMPONENT-324bCOMPONENT-325bCOMPONENT-326bCOMPONENT-327bCOMPONENT-328bCOMPONENT-329",
  "bCOMPONENT-330bCOMPONENT-331bCOMPONENT-332bCOMPONENT-333bCOMPONENT-334bCOMPONENT-335",
  "bCOMPONENT-336bCOMPONENT-337bCOMPONENT-338bCOMPONENT-339bCOMPONENT-340bCOMPONENT-341",
  "bCOMPONENT-342bCOMPONENT-343bCOMPONENT-344bCOMPONENT-345bCOMPONENT-346bCOMPONENT-347",
  "bCOMPONENT-348bCOMPONENT-349bCOMPONENT-350bCOMPONENT-351bCOMPONENT-352bCOMPONENT-353",
  "bCOMPONENT-354bCOMPONENT-355bCOMPONENT-356bCOMPONENT-357bCOMPONENT-358bCOMPONENT-359",
  "bCOMPONENT-360bCOMPONENT-361bCOMPONENT-362bCOMPONENT-363bCOMPONENT-364bCOMPONENT-365",
  "bCOMPONENT-366bCOMPONENT-367bCOMPONENT-368bCOMPONENT-369bCOMPONENT-370bCOMPONENT-371",
  "bCOMPONENT-372bCOMPONENT-373bCOMPONENT-374bCOMPONENT-375bCOMPONENT-376bCOMPONENT-377",
  "bCOMPONENT-378bCOMPONENT-379bCOMPONENT-380bCOMPONENT-381bCOMPONENT-382bCOMPONENT-383",
  "bCOMPONENT-384bCOMPONENT-385bCOMPONENT-386bCOMPONENT-387bCOMPONENT-388bCOMPONENT-389",
  "bCOMPONENT-390bCOMPONENT-391bCOMPONENT-392bCOMPONENT-393bCOMPONENT-394bCOMPONENT-395",
  "bCOMPONENT-396bCOMPONENT-397bCOMPONENT-398bCOMPONENT-399bCOMPONENT-400bCOMPONENT-401",
  "bCOMPONENT-402bCOMPONENT-403bCOMPONENT-404bCOMPONENT-405bCOMPONENT-406bCOMPONENT-407",
  "bCOMPONENT-408bCOMPONENT-409bCOMPONENT-410bCOMPONENT-411bCOMPONENT-412bCOMPONENT-413",
  "bCOMPONENT-414bCOMPONENT-415bCOMPONENT-416bCOMPONENT-417bCOMPONENT-418bCOMPONENT-419",
  "bCOMPONENT-420bCOMPONENT-421bCOMPONENT-422bCOMPONENT-423bCOMPONENT-424bCOMPONENT-425",
  "bCOMPONENT-426bCOMPONENT-427bCOMPONENT-428bCOMPONENT-429bCOMPONENT-430bCOMPONENT-431",
  "bCOMPONENT-432bCOMPONENT-433bCOMPONENT-434bCOMPONENT-435bCOMPONENT-436bCOMPONENT-437",
  "bCOMPONENT-438bCOMPONENT-439bCOMPONENT-440bCOMPONENT-441bCOMPONENT-442bCOMPONENT-443",
  "bCOMPONENT-444bCOMPONENT-445bCOMPONENT-446bCOMPONENT-447bCOMPONENT-448bCOMPONENT-449",
  "bCOMPONENT-450bCOMPONENT-451bCOMPONENT-452bCOMPONENT-453bCOMPONENT-454bCOMPONENT-455",
  "bCOMPONENT-456bCOMPONENT-457bCOMPONENT-458bCOMPONENT-459bCOMPONENT-460bCOMPONENT-461",
  "bCOMPONENT-462bCOMPONENT-463bCOMPONENT-464bCOMPONENT-465bCOMPONENT-466bCOMPONENT-467",
  "bCOMPONENT-468bCOMPONENT-469bCOMPONENT-470bCOMPONENT-471bCOMPONENT-472bCOMPONENT-473",
  "bCOMPONENT-474bCOMPONENT-475bCOMPONENT-476bCOMPONENT-477bCOMPONENT-478bCOMPONENT-479",
  "bCOMPONENT-480bCOMPONENT-481bCOMPONENT-482bCOMPONENT-483bCOMPONENT-484bCOMPONENT-485",
  "bCOMPONENT-486bCOMPONENT-487bCOMPONENT-488bCOMPONENT-489bCOMPONENT-490bCOMPONENT-491",
  "bCOMPONENT-492bCOMPONENT-493bCOMPONENT-494bCOMPONENT-495bCOMPONENT-496bCOMPONENT-497",
  "bCOMPONENT-498bCOMPONENT-499bCOMPONENT-500bCOMPONENT-501bCOMPONENT-502bCOMPONENT-503",
  "bCOMPONENT-504bCOMPONENT-505bCOMPONENT-506bCOMPONENT-507bCOMPONENT-508bCOMPONENT-509",
  "bCOMPONENT-510bCOMPONENT-511bCOMPONENT-512bCOMPONENT-513bCOMPONENT-514bCOMPONENT-515",
  "bCOMPONENT-516bCOMPONENT-517bCOMPONENT-518bCOMPONENT-519bCOMPONENT-520bCOMPONENT-521",
  "bCOMPONENT-522bCOMPONENT-523bCOMPONENT-524bCOMPONENT-525bCOMPONENT-526bCOMPONENT-527",
  "bCOMPONENT-528bCOMPONENT-529bCOMPONENT-530bCOMPONENT-531bCOMPONENT-532bCOMPONENT-533",
  "bCOMPONENT-534bCOMPONENT-535bCOMPONENT-536bCOMPONENT-537bCOMPONENT-538bCOMPONENT-539",
  "bCOMPONENT-540bCOMPONENT-541bCOMPONENT-542bCOMPONENT-543bCOMPONENT-544bCOMPONENT-545",
  "bCOMPONENT-546bCOMPONENT-547bCOMPONENT-548bCOMPONENT-549bCOMPONENT-550bCOMPONENT-551",
  "bCOMPONENT-552bCOMPONENT-553bCOMPONENT-554bCOMPONENT-555bCOMPONENT-556bCOMPONENT-557",
  "bCOMPONENT-558bCOMPONENT-559bCOMPONENT-560bCOMPONENT-561bCOMPONENT-562bCOMPONENT-563",
  "bCOMPONENT-564bCOMPONENT-565bCOMPONENT-566bCOMPONENT-567bCOMPONENT-568bCOMPONENT-569",
  "bCOMPONENT-570bCOMPONENT-571bCOMPONENT-572bCOMPONENT-573bCOMPONENT-574bCOMPONENT-575",
  "bCOMPONENT-576bCOMPONENT-577bCOMPONENT-578bCOMPONENT-579bCOMPONENT-580bCOMPONENT-581",
  "bCOMPONENT-582bCOMPONENT-583bCOMPONENT-584bCOMPONENT-585bCOMPONENT-586bCOMPONENT-587",
  "bCOMPONENT-588bCOMPONENT-589bCOMPONENT-590bCOMPONENT-591bCOMPONENT-592bCOMPONENT-593",
  "bCOMPONENT-594bCOMPONENT-595bCOMPONENT-596bCOMPONENT-597bCOMPONENT-598bCOMPONENT-599",
  "bCOMPONENT-600bCOMPONENT-601bCOMPONENT-602bCOMPONENT-603bCOMPONENT-604bCOMPONENT-605",
  "bCOMPONENT-606bCOMPONENT-607bCOMPONENT-608bCOMPONENT-609bCOMPONENT-610bCOMPONENT-611",
  "bCOMPONENT-612bCOMPONENT-613bCOMPONENT-614bCOMPONENT-615bCOMPONENT-616bCOMPONENT-617",
  "bCOMPONENT-618bCOMPONENT-619bCOMPONENT-620bCOMPONENT-621bCOMPONENT-622bCOMPONENT-623",
  "bCOMPONENT-624bCOMPONENT-625bCOMPONENT-626bCOMPONENT-627bCOMPONENT-628bCOMPONENT-629",
  "bCOMPONENT-630bCOMPONENT-631bCOMPONENT-632bCOMPONENT-633bCOMPONENT-634bCOMPONENT-635",
  "bCOMPONENT-636bCOMPONENT-637bCOMPONENT-638bCOMPONENT-639bCOMPONENT-640bCOMPONENT-641",
  "bCOMPONENT-642bCOMPONENT-643bCOMPONENT-644bCOMPONENT-645bCOMPONENT-646bCOMPONENT-647",
  "bCOMPONENT-648bCOMPONENT-649bCOMPONENT-650bCOMPONENT-651bCOMPONENT-652bCOMPONENT-653",
  "bCOMPONENT-654bCOMPONENT-655bCOMPONENT-656bCOMPONENT-657bCOMPONENT-658bCOMPONENT-659",
  "bCOMPONENT-660bCOMPONENT-661bCOMPONENT-662bCOMPONENT-663bCOMPONENT-664bCOMPONENT-665",
  "bCOMPONENT-666bCOMPONENT-667bCOMPONENT-668bCOMPONENT-669bCOMPONENT-670bCOMPONENT-671",
  "bCOMPONENT-672bCOMPONENT-673bCOMPONENT-674bCOMPONENT-675bCOMPONENT-676bCOMPONENT-677",
  "bCOMPONENT-678bCOMPONENT-679bCOMPONENT-680bCOMPONENT-681bCOMPONENT-682bCOMPONENT-683",
  "bCOMPONENT-684bCOMPONENT-685bCOMPONENT-686bCOMPONENT-687bCOMPONENT-688bCOMPONENT-689",
  "bCOMPONENT-690bCOMPONENT-691bCOMPONENT-692bCOMPONENT-693bCOMPONENT-694bCOMPONENT-695",
  "bCOMPONENT-696bCOMPONENT-697bCOMPONENT-698bCOMPONENT-699bCOMPONENT-700bCOMPONENT-701",
  "bCOMPONENT-702bCOMPONENT-703bCOMPONENT-704bCOMPONENT-705bCOMPONENT-706bCOMPONENT-707",
  "bCOMPONENT-708bCOMPONENT-709bCOMPONENT-710bCOMPONENT-711bCOMPONENT-712bCOMPONENT-713",
  "bCOMPONENT-714bCOMPONENT-715bCOMPONENT-716bCOMPONENT-717bCOMPONENT-718bCOMPONENT-719",
  "bCOMPONENT-720bCOMPONENT-721bCOMPONENT-722bCOMPONENT-723bCOMPONENT-724bCOMPONENT-725",
  "bCOMPONENT-726bCOMPONENT-727bCOMPONENT-728bCOMPONENT-729bCOMPONENT-730bCOMPONENT-731",
  "bCOMPONENT-732bCOMPONENT-733bCOMPONENT-734bCOMPONENT-735bCOMPONENT-736bCOMPONENT-737",
  "bCOMPONENT-738bCOMPONENT-739bCOMPONENT-740bCOMPONENT-741bCOMPONENT-742bCOMPONENT-743",
  "bCOMPONENT-744bCOMPONENT-745bCOMPONENT-746bCOMPONENT-747bCOMPONENT-748bCOMPONENT-749",
  "bCOMPONENT-750bCOMPONENT-751bCOMPONENT-752bCOMPONENT-753bCOMPONENT-754bCOMPONENT-755",
  "bCOMPONENT-756bCOMPONENT-757bCOMPONENT-758bCOMPONENT-759bCOMPONENT-760bCOMPONENT-761",
  "bCOMPONENT-762bCOMPONENT-763bCOMPONENT-764bCOMPONENT-765bCOMPONENT-766bCOMPONENT-767",
  "bCOMPONENT-768/1AFF0aKATAKANA LETTER MINNAN TONE-2dTONE-3dTONE-4dTONE-5/1AFF5dTONE-7dTONE-8",
  "dNASALIZED TONE-1eTONE-2eTONE-3eTONE-4eTONE-5/1AFFDeTONE-7eTONE-8/1B000cARCHAIC E",
  "aHIRAGANA LETTER ARCHAIC YEaHENTAIGANA LETTER A-1cA-2cA-3cA-WOcI-1cI-2cI-3cI-4cU-1cU-2cU-3cU-4",
  "cU-5cE-2cE-3cE-4cE-5cE-6cO-1cO-2cO-3cKA-1cKA-2cKA-3cKA-4cKA-5cKA-6cKA-7cKA-8cKA-9cKA-10cKA-11",
  "cKA-KEcKI-1cKI-2cKI-3cKI-4cKI-5cKI-6cKI-7cKI-8cKU-1cKU-2cKU-3cKU-4cKU-5cKU-6cKU-7cKE-1cKE-2",
  "cKE-3cKE-4cKE-5cKE-6cKO-1cKO-2cKO-3cKO-KIcSA-1cSA-2cSA-3cSA-4cSA-5cSA-6cSA-7cSA-8cSI-1cSI-2",
  "cSI-3cSI-4cSI-5cSI-6cSU-1cSU-2cSU-3cSU-4cSU-5cSU-6cSU-7cSU-8cSE-1cSE-2cSE-3cSE-4cSE-5cSO-1",
  "cSO-2cSO-3cSO-4cSO-5cSO-6cSO-7cTA-1cTA-2cTA-3cTA-4cTI-1cTI-2cTI-3cTI-4cTI-5cTI-6cTI-7cTU-1",
  "cTU-2cTU-3cTU-4cTU-TOcTE-1cTE-2cTE-3cTE-4cTE-5cTE-6cTE-7cTE-8cTE-9cTO-1cTO-2cTO-3cTO-4cTO-5",
  "cTO-6cTO-RAcNA-1cNA-2cNA-3cNA-4cNA-5cNA-6cNA-7cNA-8cNA-9cNI-1cNI-2cNI-3cNI-4cNI-5cNI-6cNI-7",
  "cNI-TEcNU-1cNU-2cNU-3cNE-1cNE-2cNE-3cNE-4cNE-5cNE-6cNE-KOcNO-1cNO-2cNO-3cNO-4cNO-5cHA-1cHA-2",
  "cHA-3cHA-4cHA-5cHA-6cHA-7cHA-8cHA-9cHA-10cHA-11cHI-1cHI-2cHI-3cHI-4cHI-5cHI-6cHI-7cHU-1cHU-2",
  "cHU-3cHE-1cHE-2cHE-3cHE-4cHE-5cHE-6cHE-7cHO-1cHO-2cHO-3cHO-4cHO-5cHO-6cHO-7cHO-8cMA-1cMA-2",
  "cMA-3cMA-4cMA-5cMA-6cMA-7cMI-1cMI-2cMI-3cMI-4cMI-5cMI-6cMI-7cMU-1cMU-2cMU-3cMU-4cME-1cME-2",
  "cME-MAcMO-1cMO-2cMO-3cMO-4cMO-5cMO-6cYA-1cYA-2cYA-3cYA-4cYA-5cYA-YOcYU-1cYU-2cYU-3cYU-4cYO-1",
  "cYO-2cYO-3cYO-4cYO-5cYO-6cRA-1cRA-2cRA-3cRA-4cRI-1cRI-2cRI-3cRI-4cRI-5cRI-6cRI-7cRU-1cRU-2",
  "cRU-3cRU-4cRU-5cRU-6cRE-1cRE-2cRE-3cRE-4cRO-1cRO-2cRO-3cRO-4cRO-5cRO-6cWA-1cWA-2cWA-3cWA-4",
  "cWA-5cWI-1cWI-2cWI-3cWI-4cWI-5cWE-1cWE-2cWE-3cWE-4cWO-1cWO-2cWO-3cWO-4cWO-5cWO-6cWO-7",
  "cN-MU-MO-1cN-MU-MO-2aHIRAGANA LETTER ARCHAIC WUaKATAKANA LETTER ARCHAIC YIdYEdWU/1B132",
  "aHIRAGANA LETTER SMALL KO/1B150dWIdWEdWO/1B155aKATAKANA LETTER SMALL KO/1B164dWIdWEdWOdN/1BC00",
  "aDUPLOYAN LETTER HcXcPcTcFcKcLcBcDcVcGcRcP NcD ScF NcK McR ScTHcSLOAN DHcDHcKKcSLOAN JcHLcLH",
  "cRHcMcNcJcScM NcN McJ McS JcM WITH DOTcN WITH DOTcJ WITH DOTeDOTS INSIDE AND ABOVEcS WITH DOT",
  "fBELOWcM ScN ScJ ScS ScM N ScN M ScJ M ScS J ScJ S WITH DOTdNeScS TeRdPeRcT SdR ScWcWHcW RcS N",
  "dMcK R ScG R ScS KeRcAcSLOAN OWcOAcOcAOUcIcEcIEcSHORT IcUIcEEcSLOAN EHcROMANIAN IcSLOAN EE",
  "cLONG IcYEcUcEUcXWcU NcLONG UcROMANIAN UcUHcSLOAN UcOOHcOWcOUcWAcWOcWIcWEIcWOWcNASAL UdOdIdA",
  "cPERNIN ANdAMcSLOAN ENdANdONcVOCALIC M/1BC70bAFFIX LEFT HORIZONTAL SECANT",
  "cMID HORIZONTAL SECANTcRIGHT HORIZONTAL SECANTcLOW VERTICAL SECANTcMID VERTICAL SECANT",
  "cHIGH VERTICAL SECANTcATTACHED SECANTdLEFT-TO-RIGHT SECANTdTANGENTdTAILdE HOOKdI HOOK",
  "dTANGENT HOOK/1BC80cHIGH ACUTEdTIGHT ACUTEdGRAVEdLONG GRAVEdDOTdCIRCLEdLINEdWAVEdVERTICAL",
  "/1BC90cLOW ACUTEdTIGHT ACUTEdGRAVEdLONG GRAVEdDOTdCIRCLEdLINEdWAVEdVERTICALdARROW/1BC9C",
  "bSIGN O WITH CROSSbTHICK LETTER SELECTORbDOUBLE MARKbPUNCTUATION CHINOOK FULL STOP",
  "aSHORTHAND FORMAT LETTER OVERLAPcCONTINUING OVERLAPcDOWN STEPcUP STEP"]

end LexPattern.Name.Table
