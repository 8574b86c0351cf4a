/-! # Names of characters beyond the first plane

The characters from U+10000 on.
-/

namespace CallSites.Text.CharacterName

/-- The names of these characters in the order of their code points, cut into lines. A number in
base ten starts a run of characters; a name starts with small letters that say, in base twenty-six,
how much of it is taken from the name before. -/
def beyond : List String :=
  ["@65536aLINEAR B SYLLABLE B008 Au38 Eu28 Iu61 Ou10 Uu01 DAu45 DEu07 DIu14 DOu51 DUv7 JAu46 JE@",
   "65549u36 JOu65 JUu77 KAu44 KEu67 KIu70 KOu81 KUv0 MAu13 MEu73 MIu15 MOu23 MUu06 NAu24 NEu30 N",
   "Iu52 NOv5 NUu03 PAu72 PEu39 PIu11 POu50 PUu16 QAu78 QEu21 QIu32 QO@65576u60 RAu27 REu53 RIu02",
   " ROu26 RUu31 SAu09 SEu41 SIu12 SOu58 SUv9 TAu04 TEu37 TIu05 TOu69 TUu54 WAu75 WEu40 WIv2 WO@6",
   "5596u17 ZAu74 ZE@65599u20 ZOv5 A2u43 A3u85 AUu71 DWEu90 DWOu48 NWAu29 PU2u62 PTEu76 RA2u33 RA",
   "3u68 RO2v6 TA2u87 TWEu91 TWO@65616lMBOL B018t9s22s34s47t9s56s63t4s79s82t3t6t9@65664jIDEOGRAM ",
   "B100 MANv2 WOMANv4 DEERv5 EQUIDwF MAREwM STALLIONv6F EWEwM RAMv7F SHE-GOATwM HE-GOATv8F SOWwM",
   " BOARv9F COWwM BULLu20 WHEATv1 BARLEYv2 OLIVEv3 SPICEv5 CYPERUSjMONOGRAM B127 KAPOv8 KANAKOjI",
   "DEOGRAM B130 OILv1 WINEv2jMONOGRAM B133 AREPAv5 MERIjIDEOGRAM B140 BRONZEv1 GOLDv2v5 WOOLv6u5",
   "0v1 HORNv2v3v4jMONOGRAM B156 TURO2jIDEOGRAM B157v8v9 CLOTHu60v1v2 GARMENTv3 ARMOURv4v5v6v7v8v",
   "9u70v1v2v3 MONTHv4v6 TREEv7v8v9u80v1v2v3v4v5v9u90v1 HELMETt220 FOOTSTOOLv5 BATHTUBu30 SPEARv1",
   " ARROWv2v3 SWORDv4v6u40 WHEELED CHARIOTv1 CHARIOTv2 CHARIOT FRAMEv3 WHEELv5v6jMONOGRAM B247 D",
   "IPTEjIDEOGRAM B248v9u51v2v3v4 DARTv5v6v7v8v9sVESSEL B155ba200bc1bc2bc3bc4bc5bc6bc7bc8bc9bb10b",
   "c1bc2bc3bc4bc5bc6bc7bc8bc9bb21bc2bc6bc7bc8bc9bb50ba305@65792aAEGEAN WORD SEPARATOR LINEwDOThC",
   "HECK MARK@65799hNUMBER ONEoTWOpHREEoFOURpIVEoSIXpEVENoEIGHToNINEoTENpWENTYpHIRTYoFORTYpIFTYoS",
   "IXTYpEVENTYoEIGHTYoNINETYoONE HUNDREDoTWO HUNDREDpHREE HUNDREDoFOUR HUNDREDpIVE HUNDREDoSIX H",
   "UNDREDpEVEN HUNDREDoEIGHT HUNDREDoNINE HUNDREDoONE THOUSANDoTWO THOUSANDpHREE THOUSANDoFOUR T",
   "HOUSANDpIVE THOUSANDoSIX THOUSANDpEVEN THOUSANDoEIGHT THOUSANDoNINE THOUSANDoTEN THOUSANDpWEN",
   "TY THOUSANDpHIRTY THOUSANDoFORTY THOUSANDpIFTY THOUSANDoSIXTY THOUSANDpEVENTY THOUSANDoEIGHTY",
   " THOUSANDoNINETY THOUSAND@65847hWEIGHT BASE UNIToFIRST SUBUNIToSECOND SUBUNIToTHIRD SUBUNIToF",
   "OURTH SUBUNIThDRY MEASURE FIRST SUBUNIThLIQUID MEASURE FIRST SUBUNIThMEASURE SECOND SUBUNITpT",
   "HIRD SUBUNITaGREEK ACROPHONIC ATTIC ONE QUARTERbbHALFbbDRACHMAxFIVEzFTYzVE HUNDREDbcTHOUSANDz",
   "FTY THOUSANDzVE TALENTSxTEN TALENTSxFIFTY TALENTSxONE HUNDRED TALENTSxFIVE HUNDRED TALENTSxON",
   "E THOUSAND TALENTSxFIVE THOUSAND TALENTSbcSTATERSxTEN STATERSxFIFTY STATERSxONE HUNDRED STATE",
   "RSxFIVE HUNDRED STATERSxONE THOUSAND STATERSxTEN THOUSAND STATERSxFIFTY THOUSAND STATERSxTEN ",
   "MNASrHERAEUM ONE PLETHRONrTHESPIAN ONErHERMIONIAN ONErEPIDAUREAN TWOrTHESPIAN TWOrCYRENAIC TW",
   "O DRACHMASrEPIDAUREAN TWO DRACHMASrTROEZENIAN FIVEbcTENbf ALTERNATE FORMrHERMIONIAN TENrMESSE",
   "NIAN TENrTHESPIAN TENbbHIRTYsROEZENIAN FIFTYbh ALTERNATE FORMrHERMIONIAN FIFTYrTHESPIAN FIFTY",
   "baONE HUNDREDbaTHREE HUNDREDrEPIDAUREAN FIVE HUNDREDrTROEZENIAN FIVE HUNDREDsHESPIAN FIVE HUN",
   "DREDrCARYSTIAN FIVE HUNDREDrNAXIAN FIVE HUNDREDrTHESPIAN ONE THOUSANDbaFIVE THOUSANDrDELPHIC ",
   "FIVE MNASrSTRATIAN FIFTY MNASgONE HALF SIGNt ALTERNATE FORMgTWO THIRDS SIGNhHREE QUARTERS SIG",
   "NgYEAR SIGNgTALENT SIGNgDRACHMA SIGNgOBOL SIGNgTWO OBOLS SIGNhHREE OBOLS SIGNgFOUR OBOLS SIGN",
   "hIVE OBOLS SIGNgMETRETES SIGNgKYATHOS BASE SIGNgLITRA SIGNgOUNKIA SIGNgXESTES SIGNgARTABE SIG",
   "NiOURA SIGNgGRAMMA SIGNgTRYBLION BASE SIGNgZERO SIGNgONE QUARTER SIGNgSINUSOID SIGNgINDICTION",
   " SIGNaNOMISMA SIGN@65936aROMAN SEXTANS SIGNgUNCIA SIGNgSEMUNCIA SIGNiXTULA SIGNgDIMIDIA SEXTU",
   "LA SIGNgSILIQUA SIGNgDENARIUS SIGNgQUINARIUS SIGNgSESTERTIUS SIGNgDUPONDIUS SIGNgAS SIGNgCENT",
   "URIAL SIGNaASCIA SYMBOL@65952aGREEK SYMBOL TAU RHO@66000aPHAISTOS DISC SIGN PEDESTRIANuLUMED ",
   "HEADtTATTOOED HEADtCAPTIVEuHILDtWOMANtHELMETtGAUNTLETtTIARAtARROWtBOWtSHIELDtCLUBtMANACLESvTT",
   "OCKtSAWtLIDtBOOMERANGtCARPENTRY PLANEtDOLIUMtCOMBtSLINGtCOLUMNtBEEHIVEtSHIPtHORNuIDEtBULLS LE",
   "GtCATtRAMtEAGLEtDOVEtTUNNYtBEEtPLANE TREEtVINEtPAPYRUStROSETTEtLILYtOX BACKtFLUTEtGRATERtSTRA",
   "INERuMALL AXEtWAVY BANDtCOMBINING OBLIQUE STROKE@66176aLYCIAN LETTER AoEoBpHoGoDoIoWoZoTHoJoK",
   "oQoLoMoNoMMoNNoUoPoKKoRoSoTpToANoENoHoX@66208aCARIAN LETTER AoP2oDoLoUUUoRoLDoA2oQoBoMoOoD2oT",
   "oSHq2oSoC-18oUoNNoXoNoTT2oPoSSoIoEoUUUUoKp2oNDoUUoGp2oSTq2oNGoIIoC-39oTToUUU2oRRoMBq2q3q4oLD2",
   "oE2oUUU3@66272bOPTIC EPACT THOUSANDS MARKnDIGIT ONEtTWOuHREEtFOURuIVEtSIXuEVENtEIGHTtNINEnNUM",
   "BER TENvWENTYvHIRTYuFORTYvIFTYuSIXTYvEVENTYuEIGHTYuNINETYuONE HUNDREDuTWO HUNDREDvHREE HUNDRE",
   "DuFOUR HUNDREDvIVE HUNDREDuSIX HUNDREDvEVEN HUNDREDuEIGHT HUNDREDuNINE HUNDRED@66304aOLD ITAL",
   "IC LETTER AsBEsKEsDEsEsVEsZEsHEsTHEsIsKAsELtMtNtSHsOsPEsSHEsKUsERtSsTEsUsEKSsPHEsKHEsEFtRSsCH",
   "EsIIsUUsESSlNUMERAL ONEtFIVEtTENtFIFTY@66349lLETTER YEsNORTHERN TSEsSOUTHERN TSEaGOTHIC LETTE",
   "R AHSAoBAIRKANoGIBAoDAGSoAIHVUSoQAIRTHRAoIUJAoHAGLoTHIUTHoEISoKUSMAoLAGUSoMANNAoNAUTHSoJERoUR",
   "USoPAIRTHRAoNINETYoRAIDAoSAUILoTEIWSoWINJAoFAIHUoIGGWSoHWAIRoOTHALoNINE HUNDRED@66384aOLD PER",
   "MIC LETTER ANsBURsGAIsDOIsEsZHOIsDZHOIsZATAsDZITAsIsKOKEsLEIsMENOEsNENOEsVOOIsPEEIsREIsSIIsTA",
   "IsUsCHERYsSHOOIuCHOOIsYRYtERUsOtOsEFsHAsTSIUsVERsYERvItATsIEsYUtAsIAaCOMBINING OLD PERMIC LET",
   "TER ANbcDOIbcZATAbcNENOEbcSII@66432aUGARITIC LETTER ALPAqBETAqGAMLAqKHAqDELTAqHOqWOqZETAqHOTA",
   "qTETqYODqKAFqSHINqLAMDAqMEMqDHALqNUNqZUqSAMKAqAINqPUqSADEqQOPAqRASHAqTHANNAqGHAINqTOqIqUqSSU@",
   "66463jWORD DIVIDERaOLD PERSIAN SIGN ArIrUrKAsUrGAsUrXArCArJAsIrTAsUrDAsIsUrTHArPArBArFArNAsUr",
   "MAsIsUrYArVAsIrRAsUrLArSArZArSHAsSArHA@66504rAURAMAZDAAbb-2bbHArXSHAAYATHIYArDAHYAAUSHba-2rBA",
   "GAsUUMISHmWORD DIVIDERmNUMBER ONEtTWOuENuWENTYtHUNDRED@66560aDESERET CAPITAL LETTER LONG IbcE",
   "bcAbdHbcObdOxSHORT IbdEbdAbeHbdObeOxAYxOWxWUxYEExHxPEExBEExTEExDEExCHEExJEExKAYxGAYxEFxVEExET",
   "HxTHEExESxZEExESHxZHEExERyLyMyNzGxOIxEWiSMALL LETTER LONG IbaEbaAbbHbaObbOvSHORT IbbEbbAbcHbb",
   "ObcOvAYvOWvWUvYEEvHvPEEvBEEvTEEvDEEvCHEEvJEEvKAYvGAYvEFvVEEvETHvTHEEvESvZEEvESHvZHEEvERwLwMwN",
   "xGvOIvEWaSHAVIAN LETTER PEEPpTOTpKICKpFEEpTHIGHpSOqUREpCHURCHpYEApHUNGpBIBpDEADpGAGpVOWpTHEYp",
   "ZOOpMEASUREpJUDGEpWOEpHA-HApLOLLpMIMEpIFpEGGpASHqDOpONpWOOLpOUTpAHpROARpNUNpEATpAGEpICEpUPpOA",
   "KqOZEqILpAWEqREpORpAIRpERRpARRAYpEARpIANpYEWaOSMANYA LETTER ALEFpBApTApJApXApKHApDEELpRApSAqH",
   "IINpDHApCAYNpGApFApQAAFpKAAFpLAANpMIINpNUUNpWAWpHApYApApEpIpOpUpAApEEpOO@66720iDIGIT ZEROoONE",
   "oTWOpHREEoFOURpIVEoSIXpEVENoEIGHToNINE@66736cAGE CAPITAL LETTER AwIxNwHvBRAvCHAvEHCHAvEwINvHA",
   "wYAvIvKAvEHKAvKYAvLAvMAvNAvOwINvPAvEHPAvSAwHAvTAvEHTAvTSAvEHTSAvTSHAvDHAvUvWAvKHAvGHAvZAwHA@6",
   "6776gSMALL LETTER AuIvNuHtBRAtCHAtEHCHAtEuINtHAuYAtItKAtEHKAtKYAtLAtMAtNAtOuINtPAtEHPAtSAuHAt",
   "TAtEHTAtTSAtEHTSAtTSHAtDHAtUtWAtKHAtGHAtZAuHA@66816aELBASAN LETTER ApBEpCEqHEpDEpNDEpDHEpEIpE",
   "pFEpGEqJEpHEpIpJEpKEpLEqLEpMEpNEqAqJEpOpPEpQEpREqREpSEqHEpTEqHEpUpVEpXEpYpZEqHEpGHErAMMApKHE@",
   "66864aCAUCASIAN ALBANIAN LETTER ALTbaBETbaGIMbaDATbaEBbaZARLbaEYNbaZHILbaTASbaCHAbaYOWDbaZHAb",
   "aIRBbaSHAbaLANbaINYAbaXEYNbaDYANbaCARbaJHOXbaKARbaLYITbaHEYTbaQAYbaAORbaCHOYbcIbbYAYbaMAQbaQA",
   "RbaNOWCbaDZYAYbaSHAKbaJAYNbaONbaTYAYbaFAMbaDZAYbaCHATbaPENbaGHEYSbaRATbaSEYKbaVEYZbaTIWRbaSHO",
   "YbaIWNbaCYAWbbAYNbaYAYDbaPIWRbaKIW@66927tCITATION MARKaVITHKUQI CAPITAL LETTER AyBBEzEyCEzHEy",
   "DEzHEyEIyEyFEyGA@66940yHAzHAyIzJEyJEyKAyLAzLAyMEyNEzJEyOyPEyQAyRE@66956ySEzHEyTEzHEyUyVEyXE@6",
   "6964yYyZE@66967jSMALL LETTER AwBBExEwCExHEwDExHEwEIwEwFEwGA@66979wHAxHAwIxJEwJEwKAwLAxLAwMEwN",
   "ExJEwOwPEwQAwRE@66995wSExHEwTExHEwUwVEwXE@67003wYwZE@67072aLINEAR A SIGN AB001s2s3s4s5s6s7s8s",
   "9r10s1s3s6s7r20s1tFtMs2tFtMs3tMs4s6s7s8p028BpB029r30s1s4s7s8s9r40s1s4s5s6s7s8s9r50s1s3s4s5s6s",
   "7s8s9r60s1s5s6s7s9r70s3s4s6s7s8s9r80s1s2s5s6s7p100-102pB118r20p120BpB122s3r31AtBp131CpB164r71",
   "r80s8r91p301r2r3r4r5r6r7r8r9AsBsCq10r1r2r3AsBsCr4r5r6r7r8r9q20r1r2r3r4r5r6r7r8r9q30r1r2r3r4r5",
   "r6r7r8r9q40r1r2r3r4r5r6r7r8r9q50r1r2r3r4r5r6r7r8r9q60r1r2r3r4r5r6r7r8r9q70r1p400-VASr1-VASr2-",
   "VASr3-VASr4-VASr5-VASr6-VASr7-VASr8-VASr9-VASq10-VASr1-VASr2-VASr3-VASr4-VASr5-VASr6-VASr7-VA",
   "Sr8-VASp501r2r3r4r5r6r8r9q10r1r2r3r5r6q20r1r3r4r5r6r7r8r9q30r1r2r4r5r6r7r8r9q40r1r2r5r7r8r9q5",
   "0r1r2r3r4r5r6r7r9q63r4r5r6r8r9q70r1r2r3r4r5r6r7r8r9q80r1r2r3r4r5r6r7r8r9q91r2r4r5r6r8p600r1r2",
   "r3r4r6r8r9q10r1r2r3r4r5r6r7r8r9q20r1r2r3r4r6r7r8r9q34r7r8q40r2r3r4r5r6r8r9q51r2r3r4r5r6r7r8r9",
   "q60r1r2r3r4@67392p701 Ar2 Br3 Dr4 Er5 Fr6 Hr7 Jr8 Kr9 Ls-2 L2t3 L3t4 L4t6 L6q10 Wr1 Xr2 Yr3 O",
   "MEGAr4 ABBr5 BBr7 DDq26 EYYYq32 JE@67424p800r1r2r3r4r5r6r7@67456aMODIFIER LETTER SMALL CAPITA",
   "L AArUPERSCRIPT TRIANGULAR COLONbcHALF TRIANGULAR COLONrMALL AEwCAPITAL BwB WITH HOOK@67463wD",
   "Z DIGRAPHbg WITH RETROFLEX HOOKbmCURLxEZH DIGRAPHx WITH TAILbdHOOKbh AND TAILwREVERSED EwCLOS",
   "ED REVERSED OPEN EwFENG DIGRAPHwRAMS HORNwCAPITAL GwG WITH HOOKwCAPITAL G WITH HOOKwH WITH ST",
   "ROKEwCAPITAL HwHENG WITH HOOKwDOTLESS J WITH STROKE AND HOOKwLS DIGRAPHxZ DIGRAPHx WITH BELTw",
   "CAPITAL L WITH BELTwL WITH RETROFLEX HOOK AND BELTxEZHba WITH RETROFLEX HOOKwTURNED Ybe WITH ",
   "BELTwO WITH STROKEwCAPITAL OExLOSED OMEGAwQwTURNED R WITH LONG LEGbs AND RETROFLEX HOOKwR WIT",
   "H TAILbdFISHHOOKwCAPITAL RwTC DIGRAPH WITH CURLxS DIGRAPHbg WITH RETROFLEX HOOKxESH DIGRAPHx ",
   "WITH RETROFLEX HOOKwV WITH RIGHT HOOK@67506wCAPITAL YqGLOTTAL STOP WITH STROKEqREVERSED GLOTT",
   "AL STOP WITH STROKEqBILABIAL CLICKqDENTAL CLICKqLATERAL CLICKqALVEOLAR CLICKqRETROFLEX CLICK ",
   "WITH RETROFLEX HOOKqSMALL S WITH CURL@67584aCYPRIOT SYLLABLE ArErIrOrUrJA@67592sO@67594rKAsEs",
   "IsOsUrLAsEsIsOsUrMAsEsIsOsUrNAsEsIsOsUrPAsEsIsOsUrRAsEsIsOsUrSAsEsIsOsUrTAsEsIsOsUrWAsEsIsO@6",
   "7639rXAsE@67644rZA@67647sOaIMPERIAL ARAMAIC LETTER ALEPHyBETHyGIMELyDALETHyHEyWAWyZAYINyHETHy",
   "TETHyYODHyKAPHyLAMEDHyMEMyNUNySAMEKHyAYINyPEySADHEyQOPHyRESHySHINyTAW@67671rSECTION SIGNrNUMB",
   "ER ONEyTWOzHREEzENzWENTYyONE HUNDREDbcTHOUSANDyTEN THOUSANDaPALMYRENE LETTER ALEPHrBETHrGIMEL",
   "rDALETHrHErWAWrZAYINrHETHrTETHrYODHrKAPHrLAMEDHrMEMrFINAL NUNrNUNrSAMEKHrAYINrPErSADHErQOPHrR",
   "ESHrSHINrTAWmFT-POINTING FLEURONkRIGHT-POINTING FLEURONkNUMBER ONErTWOsHREErFOURsIVErTENsWENT",
   "YaNABATAEAN LETTER FINAL ALEPHrALEPHrFINAL BETHrBETHrGIMELrDALETHrFINAL HErHErWAWrZAYINrHETHr",
   "TETHrFINAL YODHrYODHrFINAL KAPHrKAPHrFINAL LAMEDHrLAMEDHrFINAL MEMrMEMrFINAL NUNrNUNrSAMEKHrA",
   "YINrPErSADHErQOPHrRESHrFINAL SHINrSHINrTAW@67751kNUMBER ONErTWOsHREErFOURkCRUCIFORM NUMBER FO",
   "URkNUMBER FIVErTENsWENTYrONE HUNDRED@67808aHATRAN LETTER ALEPHoBETHoGIMELoDALETH-RESHoHEoWAWo",
   "ZAYNoHETHoTETHoYODHoKAPHoLAMEDHoMEMoNUNoSAMEKHoAYNoPEoSADHEoQOPH@67828oSHINoTAW@67835hNUMBER ",
   "ONEoFIVEoTENpWENTYoONE HUNDREDaPHOENICIAN LETTER ALFsBETsGAMLsDELTsHEsWAUsZAIsHETsTETsYODsKAF",
   "sLAMDsMEMsNUNsSEMKsAINsPEsSADEsQOFsROSHsSHINsTAUlNUMBER ONEsTENtWENTYsONE HUNDREDsTWOtHREE@67",
   "871lWORD SEPARATORaLYDIAN LETTER AoBoGoDoEoVoIoYoKoLoMoNoOoRoSSoToUoFoQoSoTToANoENoLYoNNoC@67",
   "903hTRIANGULAR MARK@67968aMEROITIC HIEROGLYPHIC LETTER AbdEbdIbdObdYAbdWAbdBAbf-2bdPAbdMAbdNA",
   "bf-2beEbf-2bdRAbf-2bdLAbdKHAbdHHAbdSAbf-2beEbdKAbdQAbdTAbf-2beEbf-2beObdDAwSYMBOL VIDJbh-2jCU",
   "RSIVE LETTER AyEyIyOyYAyWAyBAyPAyMAyNAzEyRAyLAyKHAyHHAySAyARCHAIC SAySEyKAyQAyTAzEzOyDA@68028",
   "rFRACTION ELEVEN TWELFTHSbaONE HALFrLOGOGRAM RMTbaIMNrNUMBER ONEyTWOzHREEyFOURzIVEySIXzEVENyE",
   "IGHTyNINEyTENzWENTYzHIRTYyFORTYzIFTYySIXTYzEVENTY@68050yONE HUNDREDyTWO HUNDREDzHREE HUNDREDy",
   "FOUR HUNDREDzIVE HUNDREDySIX HUNDREDzEVEN HUNDREDyEIGHT HUNDREDyNINE HUNDREDyONE THOUSANDyTWO",
   " THOUSANDzHREE THOUSANDyFOUR THOUSANDzIVE THOUSANDySIX THOUSANDzEVEN THOUSANDyEIGHT THOUSANDy",
   "NINE THOUSANDyTEN THOUSANDzWENTY THOUSANDzHIRTY THOUSANDyFORTY THOUSANDzIFTY THOUSANDySIXTY T",
   "HOUSANDzEVENTY THOUSANDyEIGHTY THOUSANDyNINETY THOUSANDyONE HUNDRED THOUSANDyTWO HUNDRED THOU",
   "SANDzHREE HUNDRED THOUSANDyFOUR HUNDRED THOUSANDzIVE HUNDRED THOUSANDySIX HUNDRED THOUSANDzEV",
   "EN HUNDRED THOUSANDyEIGHT HUNDRED THOUSANDyNINE HUNDRED THOUSANDrFRACTION ONE TWELFTHbaTWO TW",
   "ELFTHSbbHREE TWELFTHSbaFOUR TWELFTHSbbIVE TWELFTHSbaSIX TWELFTHSbbEVEN TWELFTHSbaEIGHT TWELFT",
   "HSbaNINE TWELFTHSbaTEN TWELFTHSaKHAROSHTHI LETTER AlVOWEL SIGN IwUwVOCALIC R@68101wEwO@68108r",
   "LENGTH MARKlSIGN DOUBLE RING BELOWqANUSVARAqVISARGAlLETTER KAtHAsGAtHA@68117sCAtHAsJA@68121sN",
   "YAsTTAuHAsDDAuHAsNNAsTAtHAsDAtHAsNAsPAtHAsBAtHAsMAsYAsRAsLAsVAsSHAtSAtAsZAsHAsKKAsTTTHAvAsVHA",
   "@68152lSIGN BAR ABOVEqCAUDAqDOT BELOW@68159lVIRAMAlDIGIT ONErTWOsHREErFOURlNUMBER TENtWENTYsO",
   "NE HUNDREDwTHOUSANDlFRACTION ONE HALF@68176lPUNCTUATION DOTxSMALL CIRCLExCIRCLEyRESCENT BARxM",
   "ANGALAMxLOTUSxDANDAyOUBLE DANDAxLINES@68192aOLD SOUTH ARABIAN LETTER HEzLAMEDHzHETHzMEMzQOPHz",
   "WAWzSHINzRESHzBETHzTAWzSATzKAPHzNUNzKHETHzSADHEbbMEKHzFEzALEFbaYNzDHADHEzGIMELzDALETHzGHAYNzT",
   "ETHzZAYNzDHALETHzYODHzTHAWbbETHsNUMBER ONEzFIFTYvERIC INDICATOReNORTH ARABIAN LETTER HEHzLAMz",
   "HAHzMEEMzQAFzWAWzES-2zREHzBEHzTEHzES-1zKAFzNOONzKHAHzSADzES-3zFEHzALEFbaINzDADzGEEMzDALzGHAIN",
   "zTAHzZAINzTHALzYEHzTHEHzZAHsNUMBER ONEzTENbaWENTY@68288aMANICHAEAN LETTER ALEPHsBETHtHETHsGIM",
   "ELtHIMELsDALETHsHEsWAWlSIGN UDlLETTER ZAYINtHAYINsJAYINtHAYINsHETHsTETHsYODHsKAPHsXAPHsKHAPHs",
   "LAMEDHsDHAMEDHsTHAMEDHsMEMsNUNsSAMEKHsAYINtAYINsPEsFEsSADHEsQOPHsXOPHsQHOPHsRESHsSHINtSHINsTA",
   "WlABBREVIATION MARK ABOVEbdBELOW@68331lNUMBER ONEsFIVEsTENtWENTYsONE HUNDREDlPUNCTUATION STAR",
   "xFLEURONxDOUBLE DOT WITHIN DOTzT WITHIN DOTzTxTWO DOTSxLINE FILLER@68352aAVESTAN LETTER AqAqO",
   "qAOqNqANqErEpEqEpOqOpIqIpUqUpKEpXEqYEqVEpGEqGEqHEpCEpJEpTEqHEpDEqHEpTTEpPEpFEpBEqHEpNGErYErVE",
   "qEqYEqNEpMEpHMEpYYEqEpVEpREpLEpSEpZEpSHEpZHEpSHYEqSHEpHE@68409iABBREVIATION MARKaTINY TWO DOT",
   "S OVER ONE DOT PUNCTUATIONaSMALL TWO DOTS OVER ONE DOT PUNCTUATIONaLARGE TWO DOTS OVER ONE DO",
   "T PUNCTUATIONgONE DOT OVER TWO DOTS PUNCTUATIONgTWO RINGS OVER ONE RING PUNCTUATIONgONE RING ",
   "OVER TWO RINGS PUNCTUATIONaINSCRIPTIONAL PARTHIAN LETTER ALEPHbeBETHbeGIMELbeDALETHbeHEbeWAWb",
   "eZAYINbeHETHbeTETHbeYODHbeKAPHbeLAMEDHbeMEMbeNUNbeSAMEKHbeAYINbePEbeSADHEbeQOPHbeRESHbeSHINbe",
   "TAW@68440xNUMBER ONEbeTWObfHREEbeFOURbeTENbfWENTYbeONE HUNDREDbiTHOUSANDqHLAVI LETTER ALEPHbd",
   "BETHbdGIMELbdDALETHbdHEbdWAW-AYIN-RESHbdZAYINbdHETHbdTETHbdYODHbdKAPHbdLAMEDHbdMEM-QOPHbdNUNb",
   "dSAMEKHbdPEbdSADHEbeHINbdTAW@68472wNUMBER ONEbdTWObeHREEbdFOURbdTENbeWENTYbdONE HUNDREDbhTHOU",
   "SANDaPSALTER PAHLAVI LETTER ALEPHxBETHxGIMELxDALETHxHExWAW-AYIN-RESHxZAYINxHETHxYODHxKAPHxLAM",
   "EDHxMEM-QOPHxNUNxSAMEKHxPExSADHEyHINxTAW@68505qSECTION MARKqTURNED SECTION MARKqFOUR DOTS WIT",
   "H CROSSbfDOT@68521qNUMBER ONExTWOyHREExFOURxTENyWENTYxONE HUNDRED@68608aOLD TURKIC LETTER ORK",
   "HON AsYENISEI AbbEsORKHON IsYENISEI IbaEsORKHON ObaEsYENISEI OEsORKHON ABsYENISEI ABsORKHON A",
   "EBsYENISEI AEBsORKHON AGsYENISEI AGsORKHON AEGsYENISEI AEGsORKHON ADsYENISEI ADsORKHON AEDzEZ",
   "sYENISEI EZsORKHON AYsYENISEI AYsORKHON AEYsYENISEI AEYsORKHON AEKsYENISEI AEKsORKHON OEKsYEN",
   "ISEI OEKsORKHON ALsYENISEI ALsORKHON AELzELTbaMzANbaENsYENISEI AENsORKHON ENTsYENISEI ENTsORK",
   "HON ENCsYENISEI ENCsORKHON ENYsYENISEI ENYbaANGsORKHON ENGsYENISEI AENGsORKHON EPzOPzICzECsYE",
   "NISEI ECsORKHON AQsYENISEI AQsORKHON IQsYENISEI IQsORKHON OQsYENISEI OQsORKHON ARsYENISEI ARs",
   "ORKHON AERbaSbaESbaSHsYENISEI ASHsORKHON ESHsYENISEI ESHsORKHON ATsYENISEI ATsORKHON AETsYENI",
   "SEI AETsORKHON OTzBASH@68736eHUNGARIAN CAPITAL LETTER AbeAbdEBbdAMBbdECbeNCbeCSbeDbdANDbdEbdC",
   "LOSE EbdEEbeFbeGbfYbeHbdIbeIbdEJbeKbdAKbdUNKbdELbfYbeMbeNbfYbdObeObdNIKOLSBURG OEbdRUDIMENTA ",
   "OEbdOEEbdEPbeMPbeRbdSHORT ERbdESbfZbeTbeNTbeTYbeCHbdUbeUbdNIKOLSBURG UEbdRUDIMENTA UEbdEVbeZb",
   "fSbeNT-SHAPED SIGNbdUS@68800oSMALL LETTER AbcAbbEBbbAMBbbECbcNCbcCSbcDbbANDbbEbbCLOSE EbbEEbc",
   "FbcGbdYbcHbbIbcIbbEJbcKbbAKbbUNKbbELbdYbcMbcNbdYbbObcObbNIKOLSBURG OEbbRUDIMENTA OEbbOEEbbEPb",
   "cMPbcRbbSHORT ERbbESbdZbcTbcNTbcTYbcCHbbUbcUbbNIKOLSBURG UEbbRUDIMENTA UEbbEVbcZbdSbcNT-SHAPE",
   "D SIGNbbUS@68858oNUMBER ONEvFIVEvTENvFIFTYvONE HUNDREDzTHOUSANDaHANIFI ROHINGYA LETTER AxBAxP",
   "AxTAyTAxJAxCAxHAxKHAxFAxDAyDAxRAyRAxZAxSAyHAxKAxGAxLAxMAxNAxWAxKINNA WAxYAxKINNA YAxNGAyYAxVA",
   "qVOWEL AwIwUwEwOqMARK SAKINvNA KHONNAqSIGN HARBAHAYvTAHALAxNAxSSI@68912qDIGIT ZEROwONEwTWOxHR",
   "EEwFOURxIVEwSIXxEVENwEIGHTwNINE@69216aRUMI DIGIT ONElTWOmHREElFOURmIVElSIXmEVENlEIGHTlNINEfNU",
   "MBER TENnWENTYnHIRTYmFORTYnIFTYmSIXTYnEVENTYmEIGHTYmNINETYmONE HUNDREDmTWO HUNDREDnHREE HUNDR",
   "EDmFOUR HUNDREDnIVE HUNDREDmSIX HUNDREDnEVEN HUNDREDmEIGHT HUNDREDmNINE HUNDREDfFRACTION ONE ",
   "HALFsQUARTERsTHIRDoTWO THIRDS@69248aYEZIDI LETTER ELIFoBEoPEpHEoTHEoSEoCIMpHIMqHIMoHHAoXAoDAL",
   "oZALoRApHAoZAoJAoSINpHINpADoDADoTAoZEoEYNoXHEYNoFAoVAq ALTERNATE FORMoQAFoKAFpHAFoGAFoLAMoMIM",
   "oNUNoUMoWAWoOWoEWoHAYoYOToET@69291hCOMBINING HAMZA MARKrMADDA MARKhHYPHENATION MARK@69296hLET",
   "TER LAM WITH DOT ABOVEoYOT WITH CIRCUMFLEX ABOVE@69376aOLD SOGDIAN LETTER ALEPHtFINAL ALEPHtB",
   "ETHtFINAL BETHtGIMELtHEtFINAL HEtWAWtZAYINtHETHtYODHtKAPHtLAMEDHtMEMtNUNtFINAL NUNbc WITH VER",
   "TICAL TAILtSAMEKHtAYINuLTERNATE AYINtPEtSADHEtFINAL SADHEbe WITH VERTICAL TAILtRESH-AYIN-DALE",
   "THtSHINtTAWtFINAL TAWbc WITH VERTICAL TAILmNUMBER ONEtTWOuHREEtFOURuIVEtTENuWENTYuHIRTYtONE H",
   "UNDREDmFRACTION ONE HALFmLIGATURE AYIN-DALETH@69424aSOGDIAN LETTER ALEPHpBETHpGIMELpHEpWAWpZA",
   "YINpHETHpYODHpKAPHpLAMEDHpMEMpNUNpSAMEKHpAYINpPEpSADHEpRESH-AYINpSHINpTAWpFETHpLESHiINDEPENDE",
   "NT SHINiCOMBINING DOT BELOWsTWO DOTS BELOWsDOT ABOVEsTWO DOTS ABOVEsCURVE ABOVEyBELOWsHOOK AB",
   "OVExBELOWsLONG HOOK BELOWsRESH BELOWsSTROKE BELOWiNUMBER ONEpTENqWENTYpONE HUNDREDiPUNCTUATIO",
   "N TWO VERTICAL BARSbl WITH DOTSuCIRCLE WITH DOTuTWO CIRCLES WITH DOTSuHALF CIRCLE WITH DOT@69",
   "488aOLD UYGHUR LETTER ALEPHsBETHsGIMEL-HETHsWAWsZAYINsFINAL HETHsYODHsKAPHsLAMEDHsMEMsNUNsSAM",
   "EKHsPEsSADHEsRESHsSHINsTAWsLESHlCOMBINING DOT ABOVEzBELOWvTWO DOTS ABOVEbeBELOWlPUNCTUATION B",
   "ARxTWO BARSbbDOTSxFOUR DOTS@69552aCHORASMIAN LETTER ALEPHsSMALL ALEPHsBETHsGIMELsDALETHsHEsWA",
   "WsCURLED WAWsZAYINsHETHsYODHsKAPHsLAMEDHsMEMsNUNsSAMEKHsAYINsPEsRESHsSHINsTAWlNUMBER ONEsTWOt",
   "HREEsFOURsTENtWENTYsONE HUNDRED@69600aELYMAIC LETTER ALEPHpBETHpGIMELpDALETHpHEpWAWpZAYINpHET",
   "HpTETHpYODHpKAPHpLAMEDHpMEMpNUNpSAMEKHpAYINpPEpSADHEpQOPHpRESHpSHINpTAWjIGATURE ZAYIN-YODH@69",
   "632aBRAHMI SIGN CANDRABINDUmANUSVARAmVISARGAmJIHVAMULIYAmUPADHMANIYAhLETTER ApAoIpIoUpUoVOCAL",
   "IC RxRwLxLoEoAIoOoAUoKApHAoGApHAoNGAoCApHAoJApHAoNYAoTTAqHAoDDAqHAoNNAoTApHAoDApHAoNAoPApHAoB",
   "ApHAoMAoYAoRAoLAoVAoSHApSApAoHAoLLAoOLD TAMIL LLLAyRRAyNNNAhVOWEL SIGN AAsBHATTIPROLU AAsItIs",
   "UtUsVOCALIC RbbRbaLbbLsEsAIsOsAUiIRAMAhDANDAiOUBLE DANDAhPUNCTUATION DOTvUBLE DOTtLINEtCRESCE",
   "NT BARtLOTUS@69714hNUMBER ONEoTWOpHREEoFOURpIVEoSIXpEVENoEIGHToNINEoTENpWENTYpHIRTYoFORTYpIFT",
   "YoSIXTYpEVENTYoEIGHTYoNINETYoONE HUNDREDsTHOUSANDhDIGIT ZEROnONEnTWOoHREEnFOURoIVEnSIXoEVENnE",
   "IGHTnNINEhSIGN OLD TAMIL VIRAMAhLETTER OLD TAMIL SHORT EbeOhVOWEL SIGN OLD TAMIL SHORT EbiOhL",
   "ETTER OLD TAMIL LLA@69759hNUMBER JOINERaKAITHI SIGN CANDRABINDUmANUSVARAmVISARGAhLETTER ApAoI",
   "pIoUpUoEoAIoOoAUoKApHAoGApHAoNGAoCApHAoJApHAoNYAoTTAqHAoDDAqDHAqHAoRHAoNNAoTApHAoDApHAoNAoPAp",
   "HAoBApHAoMAoYAoRAoLAoVAoSHApSApAoHAhVOWEL SIGN AAsItIsUtUsEsAIsOsAUhSIGN VIRAMAmNUKTAhABBREVI",
   "ATION SIGNhENUMERATION SIGNhNUMBER SIGNhSECTION MARKhDOUBLE SECTION MARKiANDAiOUBLE DANDAhVOW",
   "EL SIGN VOCALIC R@69837hNUMBER SIGN ABOVE@69840aSORA SOMPENG LETTER SAHuTAHuBAHuCAHuDAHuGAHuM",
   "AHuNGAHuLAHuNAHuVAHuPAHuYAHuRAHuHAHuKAHuJAHuNYAHuAHuEEHuIHuUHuOHuEHuMAE@69872nDIGIT ZEROtONEt",
   "TWOuHREEtFOURuIVEtSIXuEVENtEIGHTtNINE@69888aCHAKMA SIGN CANDRABINDUmANUSVARAmVISARGAhLETTER A",
   "AoIoUoEoKAApHAAoGAApHAAoNGAAoCAApHAAoJAApHAAoNYAAoTTAAqHAAoDDAAqHAAoNNAAoTAApHAAoDAApHAAoNAAo",
   "PAApHAAoBAApHAAoMAAoYYAApAAoRAAoLAAoWAAoSAAoHAAhVOWEL SIGN AsItIsUtUsEsAIsOsAUsOIhO MARKhAU M",
   "ARKhVIRAMAhMAAYYAA@69942hDIGIT ZEROnONEnTWOoHREEnFOURoIVEnSIXoEVENnEIGHTnNINEhSECTION MARKhDA",
   "NDAiOUBLE DANDAhQUESTION MARKhLETTER LHAAhVOWEL SIGN AAsEIhLETTER VAA@69968aMAHAJANI LETTER A",
   "qIqUqEqOqKArHAqGArHAqCArHAqJArHAqNYAqTTAsHAqDDAsHAqNNAqTArHAqDArHAqNAqPArHAqBArHAqMAqRAqLAqVA",
   "qSAqHAqRRAjSIGN NUKTAjABBREVIATION SIGNjSECTION MARKjLIGATURE SHRI@70016aSHARADA SIGN CANDRAB",
   "INDUnANUSVARAnVISARGAiLETTER AqApIqIpUqUpVOCALIC RyRxLyLpEpAIpOpAUpKAqHApGAqHApNGApCAqHApJAqH",
   "ApNYApTTArHApDDArHApNNApTAqHApDAqHApNApPAqHApBAqHApMApYApRApLAqLApVApSHAqSAqApHAiVOWEL SIGN A",
   "AtIuItUuUtVOCALIC RbcRbbLbcLtEtAItOtAUiSIGN VIRAMAnAVAGRAHAnJIHVAMULIYAnUPADHMANIYAiOMiDANDAj",
   "OUBLE DANDAiABBREVIATION SIGNiSEPARATORjANDHI MARKjIGN NUKTAiVOWEL MODIFIER MARKiEXTRA SHORT ",
   "VOWEL MARKiSUTRA MARKiVOWEL SIGN PRISHTHAMATRA EiSIGN INVERTED CANDRABINDUiDIGIT ZEROoONEoTWO",
   "pHREEoFOURpIVEoSIXpEVENoEIGHToNINEiEKAMiSIGN SIDDHAMiHEADSTROKEiCONTINUATION SIGNiSECTION MAR",
   "K-1v2@70113bINHALA ARCHAIC DIGIT ONEwTWOxHREEwFOURxIVEwSIXxEVENwEIGHTwNINEqNUMBER TENyWENTYyH",
   "IRTYxFORTYyIFTYxSIXTYyEVENTYxEIGHTYxNINETYxONE HUNDREDbbTHOUSAND@70144aKHOJKI LETTER ApAoIoUo",
   "EoAIoOoAUoKApHAoGApGApHAoNGAoCApHAoJApJA@70163oNYAoTTAqHAoDDAqHAoNNAoTApHAoDApDDApHAoNAoPApHA",
   "oBApBApHAoMAoYAoRAoLAoVAoSAoHAoLLAhVOWEL SIGN AAsItIsUsEsAIsOsAUhSIGN ANUSVARAmVIRAMAmNUKTAmS",
   "HADDAhDANDAiOUBLE DANDAhWORD SEPARATORhSECTION MARKhDOUBLE SECTION MARKhABBREVIATION SIGNhSIG",
   "N SUKUN@70272aMULTANI LETTER ApIpUpEpKAqHApGA@70280qHA@70282pCAqHApJAqJA@70287pNYApTTArHApDDA",
   "rDArHApNNApTAqHApDAqHApNApPAqHApBA@70303qHApMApYApRApLApVApSApHApRRAqHAiSECTION MARK@70320aKH",
   "UDAWADI LETTER AsArIsIrUsUrErAIrOrAUrKAsHArGAsGAsHArNGArCAsHArJAsJAsHArNYArTTAtHArDDAtDArRRAr",
   "DDHArNNArTAsHArDAsHArNArPAsHArBAsBAsHArMArYArRArLArVArSHAsArHAkSIGN ANUSVARAkVOWEL SIGN AAvIw",
   "IvUwUvEvAIvOvAUkSIGN NUKTApVIRAMA@70384kDIGIT ZEROqONEqTWOrHREEqFOURrIVEqSIXrEVENqEIGHTqNINE@",
   "70400aGRANTHA SIGN COMBINING ANUSVARA ABOVEoANDRABINDUnANUSVARAnVISARGA@70405iLETTER AqApIqIp",
   "UqUpVOCALIC RxL@70415pEEpAI@70419pOOpAUpKAqHApGAqHApNGApCAqHApJAqHApNYApTTArHApDDArHApNNApTAq",
   "HApDAqHApNA@70442pPAqHApBAqHApMApYApRA@70450pLAqLA@70453pVApSHAqSAqApHA@70459aCOMBINING BINDU",
   " BELOWaGRANTHA SIGN NUKTAnAVAGRAHAiVOWEL SIGN AAtIuItUuUtVOCALIC RbcR@70471tEEtAI@70475tOOtAU",
   "iSIGN VIRAMA@70480iOM@70487iAU LENGTH MARK@70493iSIGN PLUTAiLETTER VEDIC ANUSVARAvDOUBLE ANUS",
   "VARAqOCALIC RRxLLiVOWEL SIGN VOCALIC LbcL@70502aCOMBINING GRANTHA DIGIT ZEROyONEyTWOzHREEyFOU",
   "RzIVEySIX@70512sLETTER AzKAzNAzVIzPA@70656aNEWA LETTER AnAmInImUnUmVOCALIC RvRuLvLmEmAImOmAUm",
   "KAnHAmGAnHAmNGAoHAmCAnHAmJAnHAmNYAoHAmTTAoHAmDDAoHAmNNAmTAnHAmDAnHAmNAnHAmPAnHAmBAnHAmMAnHAmY",
   "AmRAnHAmLAnHAmWAmSHAnSAnAmHAfVOWEL SIGN AAqIrIqUrUqVOCALIC RzRyLzLqEqAIqOqAUfSIGN VIRAMAkCAND",
   "RABINDUkANUSVARAkVISARGAkNUKTAkAVAGRAHAkFINAL ANUSVARAfOMfSIDDHIfDANDAgOUBLE DANDAfCOMMAfGAP ",
   "FILLERfABBREVIATION SIGNfDIGIT ZEROlONElTWOmHREElFOURmIVElSIXmEVENlEIGHTlNINEgOUBLE COMMAfPLA",
   "CEHOLDER MARK@70749fINSERTION SIGNfSANDHI MARKfLETTER VEDIC ANUSVARAfSIGN JIHVAMULIYAkUPADHMA",
   "NIYA@70784aTIRHUTA ANJIiLETTER AqApIqIpUqUpVOCALIC RyRxLyLpEpAIpOpAUpKAqHApGAqHApNGApCAqHApJA",
   "qHApNYApTTArHApDDArHApNNApTAqHApDAqHApNApPAqHApBAqHApMApYApRApLApVApSHAqSAqApHAiVOWEL SIGN AA",
   "tIuItUuUtVOCALIC RbcRbbLbcLtEtSHORT EtAItOtSHORT OtAUiSIGN CANDRABINDUnANUSVARAnVISARGApRAMAn",
   "NUKTAnAVAGRAHAiGVANGiABBREVIATION SIGNiOM@70864iDIGIT ZEROoONEoTWOpHREEoFOURpIVEoSIXpEVENoEIG",
   "HToNINE@71040aSIDDHAM LETTER AqApIqIpUqUpVOCALIC RyRxLyLpEpAIpOpAUpKAqHApGAqHApNGApCAqHApJAqH",
   "ApNYApTTArHApDDArHApNNApTAqHApDAqHApNApPAqHApBAqHApMApYApRApLApVApSHAqSAqApHAiVOWEL SIGN AAtI",
   "uItUuUtVOCALIC RbcR@71096tEtAItOtAUiSIGN CANDRABINDUnANUSVARAnVISARGApRAMAnNUKTAnSIDDHAMiDAND",
   "AjOUBLE DANDAiSEPARATOR DOTsBARiREPETITION MARK-1y2y3iEND OF TEXT MARKiSECTION MARK WITH TRID",
   "ENT AND U-SHAPED ORNAMENTSbmDOTTED CRESCENTSbaRAYS AND DOTTED CRESCENTSbqDOUBLE CRESCENTSbqTR",
   "IPLE CRESCENTSvDOUBLE RINGbg WITH RAYSvWITH DOUBLE CRESCENTSbaTRIPLE CRESCENTSbaQUADRUPLE CRE",
   "SCENTSbaSEPTUPLE CRESCENTSbaCIRCLES AND RAYSbmTWO ENCLOSURESbmFOUR ENCLOSURESiLETTER THREE-CI",
   "RCLE ALTERNATE IqWO-CIRCLE ALTERNATE IblIpALTERNATE UiVOWEL SIGN ALTERNATE UbeU@71168aMODI LE",
   "TTER AnAmInImUnUmVOCALIC RvRuLvLmEmAImOmAUmKAnHAmGAnHAmNGAmCAnHAmJAnHAmNYAmTTAoHAmDDAoHAmNNAm",
   "TAnHAmDAnHAmNAmPAnHAmBAnHAmMAmYAmRAmLAmVAmSHAnSAnAmHAmLLAfVOWEL SIGN AAqIrIqUrUqVOCALIC RzRyL",
   "zLqEqAIqOqAUfSIGN ANUSVARAkVISARGAmRAMAkARDHACANDRAfDANDAgOUBLE DANDAfABBREVIATION SIGNfSIGN ",
   "HUVA@71248fDIGIT ZEROlONElTWOmHREElFOURmIVElSIXmEVENlEIGHTlNINE@71264cNGOLIAN BIRGA WITH ORNA",
   "MENTkROTATED BIRGAkDOUBLE BIRGA WITH ORNAMENTkTRIPLE BIRGA WITH ORNAMENTkBIRGA WITH DOUBLE OR",
   "NAMENTkROTATED BIRGA WITH ORNAMENTbdDOUBLE ORNAMENTkINVERTED BIRGAy WITH DOUBLE ORNAMENTkSWIR",
   "L BIRGAv WITH ORNAMENTbbDOUBLE ORNAMENTkTURNED SWIRL BIRGA WITH DOUBLE ORNAMENT@71296aTAKRI L",
   "ETTER AoAnIoInUoUnEnAInOnAUnKAoHAnGAoHAnNGAnCAoHAnJAoHAnNYAnTTApHAnDDApHAnNNAnTAoHAnDAoHAnNAn",
   "PAoHAnBAoHAnMAnYAnRAnLAnVAnSHAoAnHAnRRAgSIGN ANUSVARAlVISARGAgVOWEL SIGN AArIsIrUsUrErAIrOrAU",
   "gSIGN VIRAMAlNUKTAgLETTER ARCHAIC KHAgABBREVIATION SIGN@71360gDIGIT ZEROmONEmTWOnHREEmFOURnIV",
   "EmSIXnEVENmEIGHTmNINE@71424aAHOM LETTER KAnHAmNGAnAmTAmALTERNATE TAmPAnHAmBAmMAmJAmCHAmTHAmRA",
   "mLAmSAmNYAmHAmAmDAnHAmGAmALTERNATE GAmGHAmBHAmJHAmALTERNATE BA@71453fCONSONANT SIGN MEDIAL LA",
   "bbRAbbLIGATING RAfVOWEL SIGN ArAqIrIqUrUqEqAWqOqAIrMfSIGN KILLER@71472fDIGIT ZEROlONElTWOmHRE",
   "ElFOURmIVElSIXmEVENlEIGHTlNINEfNUMBER TENnWENTYfSIGN SMALL SECTIONlECTIONkRULAIgYMBOL VIfLETT",
   "ER CAmTTAoHAmDDAoHAmNNAmLLA@71680aDOGRA LETTER AoAnIoInUoUnEnAInOnAUnKAoHAnGAoHAnNGAnCAoHAnJA",
   "oHAnNYAnTTApHAnDDApHAnNNAnTAoHAnDAoHAnNAnPAoHAnBAoHAnMAnYAnRAnLAnVAnSHAoSAoAnHAnRRAgVOWEL SIG",
   "N AArIsIrUsUrVOCALIC RbaRrErAIrOrAUgSIGN ANUSVARAlVISARGAnRAMAlNUKTAgABBREVIATION SIGN@71840a",
   "WARANG CITI CAPITAL LETTER NGAAbbAbbWIbbYUbcAbcObbIIbbUUbbEbbObbANGbbGAbbKObbENYbbYUJbbUCbbEN",
   "NbbODDbbTTEbbNUNGbbDAbbATbcMbbBUbbPUbbHIYObcOLObdRRbcARbbSSUUbcIIbbVIYOmSMALL LETTER NGAAzAzW",
   "IzYUbaAbaOzIIzUUzEzOzANGzGAzKOzENYzYUJzUCzENNzODDzTTEzNUNGzDAzATbaMzBUzPUzHIYObaOLObbRRbaARzS",
   "SUUbaIIzVIYOmDIGIT ZEROsONEsTWOtHREEsFOURtIVEsSIXtEVENsEIGHTsNINEmNUMBER TENuWENTYuHIRTYtFORT",
   "YuIFTYtSIXTYuEVENTYtEIGHTYtNINETY@71935mOMaDIVES AKURU LETTER AuAtIuItUuUtE@71945tO@71948tKAu",
   "HAtGAuHAtNGAtCAuHAtJA@71957tNYAtTTA@71960tDDAvHAtNNAtTAuHAtDAuHAtNAtPAuHAtBAuHAtMAtYAuYAtRAtL",
   "AtVAtSHAuSAuAtHAtLLAtZAmVOWEL SIGN AAxIyIxUyUxE@71991xAIxO@71995mSIGN ANUSVARArCANDRABINDUrHA",
   "LANTAmVIRAMAmPREFIXED NASAL SIGNmMEDIAL YAmINITIAL RAmMEDIAL RAmSIGN NUKTAmDOUBLE DANDAmGAP F",
   "ILLERmEND OF TEXT MARK@72016mDIGIT ZEROsONEsTWOtHREEsFOURtIVEsSIXtEVENsEIGHTsNINE@72096aNANDI",
   "NAGARI LETTER AuAtIuItUuUtVOCALIC RbcR@72106tEtAItOtAUtKAuHAtGAuHAtNGAtCAuHAtJAuHAtNYAtTTAvHA",
   "tDDAvHAtNNAtTAuHAtDAuHAtNAtPAuHAtBAuHAtMAtYAtRAtLAtVAtSHAuSAuAtHAtLLAtRRAmVOWEL SIGN AAxIyIxU",
   "yUxVOCALIC RbgR@72154xExAIxOxAUmSIGN ANUSVARArVISARGAtRAMArAVAGRAHArSIDDHAMmHEADSTROKEmVOWEL ",
   "SIGN PRISHTHAMATRA E@72192aZANABAZAR SQUARE LETTER ArVOWEL SIGN IbcUEbcUbcEbcOEbcObcAIbdUbcRE",
   "VERSED IxLENGTH MARKrLETTER KAzHAyGAzHAyNGAyCAzHAyJAyNYAyTTAbaHAyDDAbaHAyNNAyTAzHAyDAzHAyNAyP",
   "AzHAyBAzHAyMAyTSAbaHAyDZAbaHAyZHAzAy-AyYAyRAyLAyVAySHAzSAzAyHAyKSSArFINAL CONSONANT MARKrSIGN",
   " VIRAMAwCANDRABINDUbh WITH ORNAMENTbc WITH ORNAMENTwANUSVARAwVISARGArCLUSTER-INITIAL LETTER R",
   "AzFINAL LETTER YAbmRAbmLAbmVArINITIAL HEAD MARKrCLOSING HEAD MARKrMARK TSHEGwSHADwDOUBLE SHAD",
   "wLONG TSHEGrINITIAL DOUBLE-LINED HEAD MARKrCLOSING DOUBLE-LINED HEAD MARKrSUBJOINER@72272aSOY",
   "OMBO LETTER AiVOWEL SIGN ItUEtUtEtOuEtAIuUtVOCALIC RbbLoLENGTH MARKiLETTER KAqHApGAqHApNGApCA",
   "qHApJAqHApNYApTTArHApDDArHApNNApTAqHApDAqHApNApPAqHApBAqHApMApTSArHApDZApZHAqAp-ApYApRApLApVA",
   "pSHAqSAqApHApKSSAiSIGN JIHVAMULIYAnUPADHMANIYAiCLUSTER-INITIAL LETTER RAbfLAbfSHAbgAiFINAL CO",
   "NSONANT SIGN GbdKbdNGbdDbdNbdBbdMbdRbdLbdSHbdSbd-AiSIGN ANUSVARAnVISARGAiGEMINATION MARKiSUBJ",
   "OINERiMARK TSHEGnSHADnDOUBLE SHADnPLUTAiHEAD MARK WITH MOON AND SUN AND TRIPLE FLAMEboFLAMEbi",
   "NiTERMINAL MARK-1w2@72368aCANADIAN SYLLABICS NATTILIK HIbeIbdObeObdAbeAbcSHRIbgIbfObgObfAbgAt",
   "SPEvIvOvAaPAU CIN HAU LETTER PAtKAtLAtMAtDAtZAtVAtNGAtHAtGAtKHAtSAtBAtCAtTAuHAtNAtPHAtRAtFAtC",
   "HAtAtEtItOtUuAtIAtFINAL PzKzTzMzNzLzWzNGzYmRISING TONE LONGwEmSANDHI GLOTTAL STOPmRISING TONE",
   " LONG FINALyFINALmSANDHI GLOTTAL STOP FINALtTONE LONGwEx LONG FINALyFINALmMID-LEVEL TONEmGLOT",
   "TAL STOP VARIANTmMID-LEVEL TONE LONG FINALbbFINALmLOW-FALLING TONE LONGbbEmGLOTTAL STOPmLOW-F",
   "ALLING TONE LONG FINALbdFINALmGLOTTAL STOP FINAL@72704aBHAIKSUKI LETTER AsArIsIrUsUrVOCALIC R",
   "baRzL@72714rErAIrOrAUrKAsHArGAsHArNGArCAsHArJAsHArNYArTTAtHArDDAtHArNNArTAsHArDAsHArNArPAsHAr",
   "BAsHArMArYArRArLArVArSHAsSAsArHAkVOWEL SIGN AAvIwIvUwUvVOCALIC RbeRbdL@72760vEvAIvOvAUkSIGN C",
   "ANDRABINDUpANUSVARApVISARGArRAMApAVAGRAHAkDANDAlOUBLE DANDAkWORD SEPARATORkGAP FILLER-1v2@727",
   "84kDIGIT ZEROqONEqTWOrHREEqFOURrIVEqSIXrEVENqEIGHTqNINEkNUMBER ONErTWOsHREErFOURsIVErSIXsEVEN",
   "rEIGHTrNINErTENsWENTYsHIRTYrFORTYsIFTYrSIXTYsEVENTYrEIGHTYrNINETYkHUNDREDS UNIT MARK@72816aMA",
   "RCHEN HEAD MARKiMARK SHADiLETTER KAqHApGApNGApCAqHApJApNYApTAqHApDApNApPAqHApBApMApTSArHApDZA",
   "pWApZHAqAp-ApYApRApLApSHAqApHApA@72850iSUBJOINED LETTER KAbaHAzGAzNGAzCAbaHAzJAzNYAzTAbaHAzDA",
   "zNAzPAbaHAzBAzMAzTSAbbHAzDZAzWAzZHAbaA@72873zYAzRAzLAzSHAbaAzHAzAiVOWEL SIGN AAtItUtEtOiSIGN ",
   "ANUSVARAnCANDRABINDU@72960cSARAM GONDI LETTER AwAvIwIvUwUvE@72968vAIvO@72971vAUvKAwHAvGAwHAvN",
   "GAvCAwHAvJAwHAvNYAvTTAxHAvDDAxHAvNNAvTAwHAvDAwHAvNAvPAwHAvBAwHAvMAvYAvRAvLAvVAvSHAwSAwAvHAvLL",
   "AvKSSAvJNYAvTRAoVOWEL SIGN AAzIbaIzUbaUzVOCALIC R@73018zE@73020zAIzO@73023zAUoSIGN ANUSVARAtV",
   "ISARGAtNUKTAtCANDRAtHALANTAoVIRAMAoREPHApA-KARA@73040oDIGIT ZEROuONEuTWOvHREEuFOURvIVEuSIXvEV",
   "ENuEIGHTuNINE@73056aGUNJALA GONDI LETTER AwAvIwIvUwU@73063vEEvAI@73066vOOvAUvYAvVAvBAwHAvMAvK",
   "AwHAvTAwHAvLAvGAwHAvDAwHAvNAvCAwHAvTTAxHAvLLAvJAwHAvDDAxHAvNGAvPAwHAvHAvRAvSAoVOWEL SIGN AAzI",
   "baIzUbaU@73104zEEzAI@73107zOOzAUoSIGN ANUSVARAtVISARGAoVIRAMAoOM@73120oDIGIT ZEROuONEuTWOvHRE",
   "EuFOURvIVEuSIXvEVENuEIGHTuNINE@73440aMAKASAR LETTER KApGApNGApPApBApMApTApDApNApCApJApNYApYAp",
   "RApLApVApSApAiANGKAiVOWEL SIGN ItUtEtOiPASSIMBANGiEND OF SECTION@73648aLISU LETTER YHA@73664a",
   "TAMIL FRACTION ONE THREE-HUNDRED-AND-TWENTIETHtONE-HUNDRED-AND-SIXTIETHtEIGHTIETHtSIXTY-FOURT",
   "HtFORTIETHtTHIRTY-SECONDpTHREE EIGHTIETHSvSIXTY-FOURTHSpONE TWENTIETHtSIXTEENTH-1bd2tTENTHtEI",
   "GHTHpTHREE TWENTIETHSvSIXTEENTHSpONE FIFTHtQUARTERtHALF-1y2pTHREE QUARTERSpDOWNSCALING FACTOR",
   " KIIZHgSIGN NELlCEVITUlAAZHAAKKUlUZHAKKUlMUUVUZHAKKUlKURUNIlPATHAKKUlMUKKURUNIlKAACUlPANAMmON",
   "lVARAAKANlPAARAMlKUZHIlVELIgWET CULTIVATION SIGNgDRY CULTIVATION SIGNgLAND SIGNgSALT PAN SIGN",
   "gTRADITIONAL CREDIT SIGNsNUMBER SIGNgCURRENT SIGNgAND ODD SIGNgSPENT SIGNgTOTAL SIGNgIN POSSE",
   "SSION SIGNgSTARTING FROM SIGNhIGN MUTHALIYAlVAKAIYARAA@73727gPUNCTUATION END OF TEXTaCUNEIFOR",
   "M SIGN Aq TIMES AxBADxGAN2 TENUxHAxIGIxLAGAR GUNUxMUSHxSAGq2qBr TIMES ASH2yDUN3 GUNUyGALbaN2 ",
   "TENUyHAyIGI GUNUzMINyLAGABySHESHyU PLUS U PLUS UsGUNUr2s TIMES BALAGzGAN2 TENUzME PLUS ENzSHA",
   "3zTAK4qDqKr TIMES ERIN2ySHITA PLUS GISHqLr TIMES ALyDIM2yGISHyHAyKAD3zIySHEyUSHrANrEPHqMARt T",
   "IMES SHEqNr OVER ANsTHREE TIMESsPLUS NAGA OPPOSING AN PLUS NAGAbcSQUAREDrSHEqPINqRADt TIMES K",
   "URrKABqSAL2rHs ZIDA TENUtKABA TENUtOVER ASH TUG2 OVER TUG2 TUG2 OVER TUG2 PAPbcOVER ASHbk CRO",
   "SSING ASH OVER ASH OVER ASHs2sGABpBArDrG3rHAR2rLs OVER BALsAGrRsA2qIr TIMES AyGARyIGI GUNUqUr",
   " OVER BU ABbaUNsCROSSING BUrLUGu OVER BULUGrRs2pDArGs KISIM5 TIMES A PLUS MASHbhMARbgBALAGbhI",
   "bgGAbi PLUS MASHbhIbiR2bhUDbgHAbgIRbi PLUS LUbgKAKbgLAbhUbi PLUS MASH2biMbgNEbgPAP PLUS PAPbg",
   "SIbgTAK4bgU2 PLUS GIR2bhSHrMrRsA3t4qIrBrMs TIMES SHEs2rNs KASKAL U GUNU DISHrSHqUr OVER DUsGU",
   "NUsSHESHIGrBs TIMES ESH2s2rGsUDrHrNs3t GUNUy GUNUs4rR2pEq TIMES PAPrOVER E NUN OVER NUNq2r TI",
   "MES A PLUS HA PLUS DAyGARyMIySALzHEyUqDINqGIRqLqNr TIMES GAN2bc TENUyMEsCROSSING ENsOPPOSING ",
   "ENsSQUAREDqRENrIN2qSH2qZENt TIMES Abb PLUS LALbk TIMES LALbbNbaBADbaDUN3 GUNUbj GUNUbaHAbc GU",
   "NUbaIGI GUNUbaKASKALbg SQUAREDbbU3baLAbcL TIMES LALbbIbbUbaU2bbDpGAr GUNUr2s TIMES A PLUS DA ",
   "PLUS HAbgHAbgIGIbaB2 TENU PLUS TABbaNbaSHbc2 PLUS GALzBADbbR PLUS RAbaURbc PLUS RAzDAbaIbbM T",
   "IMES SHEbaUBzELbb PLUS LAbaNbb TIMES GAN2 TENUzGAN2 TENUbbRbaIbb4bc PLUS AbbR2 PLUS SUzHA PLU",
   "S LU PLUS ESH2bbLbc PLUS LAbaI PLUS LIbaUB2zIGI GUNUbaSH PLUS HU PLUS ASHzKAKbbSKALbaIDbc PLU",
   "S LALbaU3 PLUS ANzLAzME PLUS ENbaIzNUNbc OVER NUNzPAzSALbbRbaHEbc PLUS TURbbIDbaUMzTAK4zUbaDb",
   "b PLUS DUtOVER GA2rBAt CROSSING GABArDs OVER GAD GAR OVER GARrLs GAD OVER GAD GAR OVER GARsAM",
   "rMrNs2t TENUuOVER GAN2uCROSSING GAN2rRs3rSHANqESHTINw TIMES KURqIr TIMES EyUsCROSSING GIr4s O",
   "VER GI4tCROSSING GI4rDIMrR2t GUNUs3t TIMES A PLUS IGIbaGAN2 TENUbaIGIbaLU PLUS IGIbaPArSALsHt",
   " CROSSING GISHuTIMES BADbaTAK4vENUqUr CROSSING GUr2s TIMES KAKbc TIMES IGI GUNUzNUNzSAL PLUS ",
   "TUG2tGUNUrDs TIMES A PLUS KURzKURtOVER GUD LUGALrLrMs TIMES SHErRs7sUNtSHpHAr TENUsGUNUrLqIr ",
   "TIMES ASHbb2yBADyDISHyGADyKINyNUNySHEyUqUrB2t TIMES ANbaHALbaKASKALbaLISHbaUDrL2pIq AqBqDIMt ",
   "OVER IDIM BURbeSQUAREDqGrIs DIBtRItOVER IGI SHIR OVER SHIR UD OVER UDtGUNUqLr TIMES GAN2 TENU",
   "r2qMr TIMES TAK4sCROSSING IMsOPPOSING IMsSQUAREDrINqNqRqSHpKAr TIMES AzDba PLUS KU3zSH2yBADba",
   "LAGbaRzIyERIN2zSH2yGAbaLbaN2 TENUbaRbb PLUS SHA3 PLUS AzIbaR2baSH PLUS SARbdCROSSING GISHzUba",
   "R7yIGIzMyKAKzIbaDyLIzUyMEba PLUS DUbgGIbgTEzIba PLUS NUNUZyNEzUNyPIyRUySAbaRzHAbaEbaIDbaUzIGz",
   "UHURyTARyUz2zDzMUM TIMES PAzSHyZIr2s CROSSING KA2rBrD2s3s4s5t OVER KAD5rKs TIMES IGI GUNUrLs ",
   "TIMES BADtCROSSING KALrM2s4rSKALv LAGAB TIMES U OVER LAGAB TIMES UwOVER KASKAL LAGAB TIMES U ",
   "OVER LAGAB TIMES UqESH2qIr TIMES BADyUzDrDrNrSALsHsIM5v OVER KISIM5qUr OVER HI TIMES ASH2 KU ",
   "OVER HI TIMES ASH2r3r4s VARIANT FORMr7rLs GUNUrNrRs OPPOSING KURrSHU2qWU318pLArGABu TIMES Abc",
   " PLUS DA PLUS HAbiGARbiLALbcLbcNbcSH ZIDA TENUbbBADbcIbbDARbbENbbGAbdRbcUDbe PLUS GUDbbHAbdLb",
   "cI TIMES NUNbbIGI GUNUbcMbd PLUS HAbjLUbbKIbdNbcU3bdLbe PLUS HI PLUS AbbLAGABbcISHbcUbdLbbMEb",
   "d PLUS ENbcUSHbbNEbbSHE PLUS SUMbdITA PLUS GISH PLUS ERIN2brTENUbdU2bf PLUS SHU2bcUMbbTAGbdK4",
   "bcE PLUS A PLUS SU PLUS NAbbUbc PLUS AbiU PLUS Ubc2 PLUS ASHbcDbcSHvSQUAREDtRu TIMES SHEbe PL",
   "US SUMvGUNUz OVER LAGAR GUNU SHErHSHUrLs TIMES LALrMs TIMES KURbc PLUS RUqIrLrMMU2rSHqUr TIME",
   "S BADr2s TIMES ALzBADzESH2bd TENUzGAN2 TENUzHI TIMES BADzIMzKAD2bc3bd PLUS ASHbaIzLA PLUS ASH",
   "bbGABzME PLUS ENzNEbaUzSI PLUS ASHbbK2 PLUS BUzTUG2uENUtCROSSING LU2tOPPOSING LU2tSQUAREDuHES",
   "HIGr3rGALu OVER LUGALwPPOSING LUGALvSHESHIGrHrLrMs OVER LUMbb GAR OVER GARpMAr TIMES TAK4sGUN",
   "Ur2rHrRrSHt2qErSqIrNqUr OVER MUrGs GUNUrNSUBrRGU2rSHt TIMES AbaKURbaZAuOVER MUSHbd TIMES A PL",
   "US NAuCROSSING MUSHt3u TIMES Abc PLUS DIbbDIvGUNUpNAr2rGAt INVERTEDuTIMES SHU TENUuOPPOSING N",
   "AGAtRrM NUTILLUrMs2qEr TIMES AyUDsSHESHIGqIr TIMES Er2rMs TIMES GAN2 TENUbbR PLUS GAN2 TENUrN",
   "DA2v TIMES ANbdSHbf PLUS ASHbcGUDbcME PLUS GAN2 TENUbcNEbdUNbcSHEbf PLUS A ANbmSHbo PLUS ASHb",
   "cU2 PLUS ASHbdSHrSAGqUr11rNs LAGAR TIMES GARbfMASHbfSALbi OVER NUN LAGAR TIMES SALbfUSHtTENUt",
   "OVER NUNtCROSSING NUNbf LAGAR OVER LAGARsUZu AB2 TIMES ASHGABbfBIbfDUGbfGUDbfIGI GUNUbfKAD3bf",
   "LAbfNEbfSILA3bfU2vKISIM5 TIMES BIbk UpPArDrNrPqESH2qIr TIMES AzByBIzUyEyIzByUz2sCROSSING PIrR",
   "IGu TIMES KALbbUDbbZAvOPPOSING PIRIGpRArBqIqUpSArG NUTILLUrGs TIMES AzDUbbBzHAzKAKbaURzLUMzMI",
   "zNUNzSALbaHIDzTABzU2baBbaMbaRbaSHtOVER SAGtGUNUrLs LAGAB TIMES ASH2rNGA2rRqHAs3t TIMES AbaBAD",
   "baGISHbaNEbaSHU2baTURbaUbb PLUS As6sB6sR2rEs HUtOVER SHE GAD OVER GAD GAR OVER GARbcTAB OVER ",
   "TAB GAR OVER GARsG9sNsSHu2uLAMrIDt TIMES AbaIMsMt TIMES AbaBALbbULUGbaDINbaGARbaIGIbd GUNUbaK",
   "USHU2baLULbaMUGbaSALsNIGsRt TENUuOVER SHIR BUR OVER BURsTArUs OVER INVERTED SHUs2sBURqIr GUNU",
   "rGs4t OVER SIG4 SHU2rK2rLA3qUr OVER SUrDs2rHURrMsASHrRs9pTAr ASTERISKsTIMES HIyMIsGUNUrBs OVE",
   "R TAB NI OVER NI DISH OVER DISHtSQUAREDrGs TIMES BIzGUDzSHEbbUzTUG2zUDrK4rRqEr GUNUqIr TENUrL",
   "rRs TIMES TAK4tOVER TIRbb GAD OVER GAD GAR OVER GARqUrG2rKrMrRs OVER TUR ZA OVER ZApUq GUDrU ",
   "UrOVER U PA OVER PA GAR OVER GARySUR OVER SURyU REVERSED OVER U REVERSEDq2qBqDr KUSHU2sTIMES ",
   "BADyMIyU PLUS U PLUS Ubn GUNUsGUNUsSHESHIGz TIMES BADrUGqMr TIMES LAGAByME PLUS DAySHA3yUrBIN",
   "rUMt TIMES KASKALbaPAqNr GUNUqRr CROSSING URsSHESHIGr2s TIMES A PLUS HAbgNAbaLzHAzNUNzU2bb PL",
   "US ASHbhBIr4rIs3rUs TIMES AbaSHGABzBARzDUNzGAbbLbbN2 TENUbbRbaUzHAzIGIbaMbaSHzKIzLUMzMINzPAzS",
   "HEbaIG4zTUzU PLUS GUDbaDbaRUDAsDAu TIMES UqSHs TIMES AzKUbbRzTAK4sXs2sUMXqTUKIqZ3s TIMES KASK",
   "ALrUpZAr TENUsSQUARED TIMES KURrGrMXqE2qIr OVER ZIr3rBs KABA TENUrGrZ2qUr5s TIMES ArBURrMpKAP",
   " ELAMITEpAB TIMES NUNr2 TIMES AqMAR TIMES KUGpDAG KISIM5 TIMES U2 PLUS MASHs3qISH PLUS SHUqUB",
   " TIMES SHEpEZEN TIMES GUDbaSHEpGA2 TIMES AN PLUS KAK PLUS AbaSH2qE22qIGpHUSHpKA TIMES ANSHEzS",
   "H3yGISHzUDyHI TIMES ASH2yLUMyPAySHULyTUyUR2pLAGAB TIMES GIqU2 SHESHIG TIMES BADtTIMES ESH2 PL",
   "US LALzSHUpMESHqUSH3 TIMES ZApNA4qINs9sDA2 TIMES BALbcGIqU11 ROTATED NINETY DEGREESpPESH2 AST",
   "ERISKqIR2pSAG TIMES IGI GUNUpTI2pUM TIMES MEq U@74752kNUMERIC SIGN TWO ASHyHREE ASHxFOUR ASHy",
   "IVE ASHxSIX ASHyEVEN ASHxEIGHT ASHxNINE ASHxTHREE DISHxFOUR DISHyIVE DISHxSIX DISHyEVEN DISHx",
   "EIGHT DISHxNINE DISHxFOUR UyIVE UxSIX UyEVEN UxEIGHT UxNINE UxONE GESH2xTWO GESH2yHREE GESH2x",
   "FOUR GESH2yIVE GESH2xSIX GESH2yEVEN GESH2xEIGHT GESH2xNINE GESH2xONE GESHUxTWO GESHUyHREE GES",
   "HUxFOUR GESHUyIVE GESHUxTWO SHAR2yHREE SHAR2bi VARIANT FORMxFOUR SHAR2yIVE SHAR2xSIX SHAR2yEV",
   "EN SHAR2xEIGHT SHAR2xNINE SHAR2xONE SHARUxTWO SHARUyHREE SHARUbi VARIANT FORMxFOUR SHARUyIVE ",
   "SHARUxSHAR2 TIMES GAL PLUS DISHbsMINxONE BURUxTWO BURUyHREE BURUbh VARIANT FORMxFOUR BURUyIVE",
   " BURUxTHREE VARIANT FORM ESH16bt21xFOUR VARIANT FORM LIMMUbu4bu AbvBxSIX VARIANT FORM ASH9yEV",
   "EN VARIANT FORM IMIN3bu AbvBxEIGHT VARIANT FORM USSUbu3xNINE VARIANT FORM ILIMMUbv3bv4bv AxTW",
   "O ASH TENUyHREE ASH TENUxFOUR ASH TENUyIVE ASH TENUxSIX ASH TENUxONE BAN2xTWO BAN2yHREE BAN2x",
   "FOUR BAN2bg VARIANT FORMyIVE BAN2bg VARIANT FORMxNIGIDAMINbdESHxONE ESHE3xTWO ESHE3xONE THIRD",
   " DISHxTWO THIRDS DISHxFIVE SIXTHS DISHxONE THIRD VARIANT FORM AxTWO THIRDS VARIANT FORM AxONE",
   " EIGHTH ASHbbQUARTER ASHyLD ASSYRIAN ONE SIXTHboQUARTERyNE QUARTER GURbbHALF GURxELAMITE ONE ",
   "THIRDbfTWO THIRDSbfFORTYbgIFTYxFOUR U VARIANT FORMyIVE U VARIANT FORMxSIX U VARIANT FORMyEVEN",
   " U VARIANT FORMxEIGHT U VARIANT FORMxNINE U VARIANT FORM@74864kPUNCTUATION SIGN OLD ASSYRIAN ",
   "WORD DIVIDERbbVERTICAL COLONbbDIAGONAL COLONbkTRICOLONbkQUADCOLON@74880kSIGN AB TIMES NUN TEN",
   "UySHU2qD TIMES ESH2pBAD TIMES DISH TENUrHAR2 TIMES AB2bcNIbcZAqU OVER BU TIMES NA2pDA TIMES T",
   "AK4rG TIMES KURqIM TIMES IGIzU U Us2 TIMES UDqUG TIMES ANSHEbaSHbc AT LEFTzDINbaUNzERIN2zGAba",
   "IbbR2 GUNUbbSHzHAbaIzIGI GUNUzKASKALbaURbbSHU2bf PLUS KASKALzLAK-020bbMbc TIMES KURbaUH PLUS ",
   "GISHzMASHbaESbaIzNIzPIzSHEbaI GUNUpE2 TIMES KURyPAPqRIN2 XqSH2 CROSSING ESH2qZEN SHESHIG TIME",
   "S ASHbiHIbiIGI GUNUbiLAbkLbiMEbkSbiSUuTIMES SUpGA2 TIMES BAHAR2zDIM GUNUbaUG TIMES IGI GUNUbj",
   "KASKALzERENzGAbbR PLUS DIbiNEzHA PLUS AzKUSHU2 PLUS KASKALzLAMbc TIMES KURbaUHzMUSHzNEbb PLUS",
   " E2bhGIzSHIMzZIZ2rBA ROTATED NINETY DEGREESqESHTIN TIMES UqISH TIMES GISH CROSSING GISHqU2 TI",
   "MES IGI GUNUrD PLUS GISH TIMES TAK4pHA TENU GUNUqI TIMES ASH OVER HI TIMES ASHpKA TIMES BUyKA",
   "yU U UzRpLAGAB TIMES ZU OVER ZUrK-003u21v5u30u50v1u62u79 OVER LAK-079 GUNUu80v1 OVER LAK-081u",
   "92t130u42t210v9u20v5v8u38u65v6t343v7v8u83v4u90t441v9w TIMES GUbdIGIbdPAP PLUS LU3bmPAP PLUS L",
   "U3bdU2 PLUS BAu50v7u70u83u90v2v3v5t550t608u17w TIMES ASHbdBADbdDUN3 GUNU GUNUbdKU3bdLAbdTARbe",
   "EbdU2beDbeRUDAu36u48w TIMES DUBbdGAbdIGIbg GUNUbdNIbdPAP PLUS PAP PLUS LU3bdSHESH PLUS KIbdUD",
   "beRUDAt724u49qU2 GUNU TIMES ASHtTIMES DISHzHALzPAPbc PLUS PAP PLUS LU3zTAK4pMI PLUS ZA7qUSH O",
   "VER MUSH TIMES GAbkKAKpNINDA2 TIMES DIM GUNUbcGISHbdULbcHIbcKESH2bcLAK-050bcMASHbcPAP PLUS PA",
   "PbcUbd PLUS UbdRUDApSAG GUNU TIMES HAtTIMES ENzSHE AT LEFTzTAK4qHA6 TENUrE OVER SHEtPLUS HUB2",
   "yNAM2ySARrU2 PLUS DUG TIMES NIzE2 TIMES ANqI TIMES TAK4pTAK4 PLUS SAGqUM TIMES GAN2 TENUzTHRE",
   "E DISHpUR2 INVERTEDtTIMES UDrU TIMES DARA3zLAK-668baU3pZA7qU OVER ZU PLUS SARr5 TIMES THREE D",
   "ISH TENU@77712bYPRO-MINOAN SIGN CM001w2w4w5w6w7w8w9v10w1w2xBw3w5w7w9v21w3w4w5w6w7w8w9v30w3w4w",
   "5w6w7w8w9v40w1w4w6w7w9v50w1w2w3w4w5w6w8w9v60w1w2w3w4w6w7w8w9v70w1w2w3w4w5xBw6w8w9v80w1w2w3w4w",
   "5w6w7w8w9v90w1w2w4w5w6w7w8w9u100w1w2w3w4w5w7w8w9v10w2w4u301w2@77824aEGYPTIAN HIEROGLYPH A001x",
   "2x3x4x5yAx6yAyBx7x8x9w10x1x2x3x4yAx5x6x7yAx8x9w20x1x2x3x4x5x6x7x8x9w30x1x2yAx3x4x5x6x7x8x9w40",
   "yAx1x2yAx3yAx4x5yAx6x7x8x9w50x1x2x3x4x5x6x7x8x9w60x1x2x3x4x5x6x7x8x9w70uB001x2x3x4x5yAx6x7x8x",
   "9uC001x2yAyByCx3x4x5x6x7x8x9w10yAx1x2x3x4x5x6x7x8x9w20x1x2x3x4uD001x2x3x4x5x6x7x8yAx9w10x1x2x",
   "3x4x5x6x7x8x9w20x1x2x3x4x5x6x7yAx8x9w30x1yAx2x3x4yAx5x6x7x8x9w40x1x2x3x4x5x6yAx7x8yAx9w50yAyB",
   "yCyDyEyFyGyHyIx1x2yAx3x4yAx5x6x7x8x9w60x1x2x3x4x5x6x7yAyByCyDyEyFyGyHuE001x2x3x4x5x6x7x8yAx9y",
   "Aw10x1x2x3x4x5x6yAx7yAx8x9w20yAx1x2x3x4x5x6x7x8yAx9w30x1x2x3x4yAx6x7x8uF001yAx2x3x4x5x6x7x8x9",
   "w10x1x2x3yAx4x5x6x7x8x9w20x1yAx2x3x4x5x6x7x8x9w30x1yAx2x3x4x5x6x7yAx8yAx9w40x1x2x3x4x5yAx6yAx",
   "7yAx8x9w50x1yAyByCx2x3uG001x2x3x4x5x6yAx7yAyBx8x9w10x1yAx2x3x4x5x6x7x8x9w20yAx1x2x3x4x5x6yAx7",
   "x8x9w30x1x2x3x4x5x6yAx7yAx8x9w40x1x2x3yAx4x5yAx6x7x8x9w50x1x2x3x4uH001x2x3x4x5x6yAx7x8uI001x2",
   "x3x4x5yAx6x7x8x9yAw10yAx1yAx2x3x4x5uK001x2x3x4x5x6x7x8uL001x2yAx3x4x5x6yAx7x8uM001yAyBx2x3yAx",
   "4x5x6x7x8x9w10yAx1x2yAyByCyDyEyFyGyHx3x4x5yAx6yAx7yAx8x9w20x1x2yAx3x4yAx5x6x7x8yAx9w30x1yAx2x",
   "3yAyBx4x5x6x7x8x9w40yAx1x2x3x4uN001x2x3x4x5x6x7x8x9w10x1x2x3x4x5x6x7x8yAyBx9w20x1x2x3x4x5yAx6",
   "x7x8x9w30x1x2x3yAx4yAx5yAx6x7yAx8x9w40x1x2vL001y2y3y4y5zAy6y7y8y9x10y1y2y3y4y5y6y7zAy8y9x20vU",
   "001y2y3y4y5y6y7y8y9x10zAy1zAy2y3y4y5y6y7y8zAy9x20y1y2zAuO001yAx2x3x4x5yAx6yAyByCyDyEyFx7x8x9w",
   "10yAyByCx1x2x3x4x5x6x7x8x9yAw20yAx1x2x3x4yAx5yAx6x7x8x9yAw30yAx1x2x3yAx4x5x6yAyByCyDx7x8x9w40",
   "x1x2x3x4x5x6x7x8x9w50yAyBx1uP001yAx2x3yAx4x5x6x7x8x9w10x1uQ001x2x3x4x5x6x7uR001x2yAx3yAyBx4x5",
   "x6x7x8x9w10yAx1x2x3x4x5x6yAx7x8x9w20x1x2x3x4x5x6x7x8x9uS001x2yAx3x4x5x6yAx7x8x9w10x1x2x3x4yAy",
   "Bx5x6x7yAx8x9w20x1x2x3x4x5x6yAyBx7x8x9w30x1x2x3x4x5yAx6x7x8x9w40x1x2x3x4x5x6uT001x2x3yAx4x5x6",
   "x7yAx8yAx9yAw10x1yAx2x3x4x5x6yAx7x8x9w20x1x2x3x4x5x6x7x8x9w30x1x2yAx3yAx4x5x6uU001x2x3x4x5x6y",
   "AyBx7x8x9w10x1x2x3x4x5x6x7x8x9w20x1x2x3yAx4x5x6x7x8x9yAw30x1x2yAx3x4x5x6x7x8x9w40x1x2uV001yAy",
   "ByCyDyEyFyGyHyIx2yAx3x4x5x6x7yAyBx8x9w10x1yAyByCx2yAyBx3x4x5x6x7x8x9w20yAyByCyDyEyFyGyHyIyJyK",
   "yLx1x2x3yAx4x5x6x7x8yAx9yAw30yAx1yAx2x3yAx4x5x6x7yAx8x9w40yAuW001x2x3yAx4x5x6x7x8x9yAw10yAx1x",
   "2x3x4yAx5x6x7yAx8yAx9w20x1x2x3x4yAx5uX001x2x3x4yAyBx5x6yAx7x8yAuY001yAx2x3x4x5x6x7x8uZ001x2yA",
   "yByCyDx3yAyBx4yAx5yAx6x7x8x9w10x1x2x3x4x5yAyByCyDyEyFyGyHyIx6yAyByCyDyEyFyGyHuAA001y2y3y4y5y6",
   "y7zAzBy8y9x10y1y2y3y4y5y6y7y8y9x20y1y2y3y4y5y6y7y8y9x30y1y2@78896uVERTICAL JOINERuHORIZONTAL ",
   "JOINERuINSERT AT TOP STARTbeBOTTOM STARTbeTOP ENDbeBOTTOM ENDuOVERLAY MIDDLEuBEGIN SEGMENTuEN",
   "D SEGMENT@82944aANATOLIAN HIEROGLYPH A001y2y3y4y5y6y7y8y9x10zAy1y2y3y4y5y6y7y8y9x20y1y2y3y4y5",
   "y6zAy7y8y9x30y1y2y3y4y5y6y7y8y9zAx40y1zAy2y3y4y5zAy6zAzBy7y8y9x50y1y2y3y4y5y6y7y8y9x60y1y2y3y",
   "4y5y6zAzBzCy7y8y9x70y1y2y3y4y5y6y7y8y9x80y1y2y3y4y5y6y7y8y9x90y1y2y3y4y5y6y7zAy8zAy9w100zAy1z",
   "Ay2zAy3y4zAzBzCy5zAzBy6y7zAzBzCy8y9x10zAzBy1y2y3y4y5zAy6y7y8y9x20y1y2y3y4y5zAy6y7y8y9x30y1y2y",
   "3y4y5zAy6y7y8y9x40y1y2y3y4y5y6y7y8y9x50y1y2y3y4y5y6y7y8y9x60y1y2y3y4y5y6y7y8y9x70y1y2y3y4y5y6",
   "y7y8y9x80y1y2y3y4y5y6y7y8y9x90y1y2y3y4y5y6y7y8y9w200y1y2zAzBy3y4y5y6y7zAy8y9zAx10y1y2y3y4y5zA",
   "y6zAy7y8y9x20y1y2y3y4y5y6y7zAy8y9x30y1y2y3y4y5y6y7y8y9x40y1y2y3y4y5y6y7y8y9x50y1y2y3y4y5y6y7y",
   "8y9x60y1y2y3y4y5y6y7zAy8y9x70y1y2y3y4y5y6y7y8y9x80y1y2y3y4y5y6y7y8y9zAx90y1y2y3y4zAy5y6y7y8y9",
   "zAw300y1y2y3y4y5y6y7y8y9zAx10y1y2y3y4y5y6y7y8y9x20y1y2y3y4y5y6y7y8y9zAx30y1y2AzBzCy3y4y5y6zAz",
   "BzCy7y8y9x40y1y2y3y4y5y6y7y8y9x50y1y2y3y4y5y6y7y8y9zAx60y1y2y3y4zAy5y6y7y8zAy9x70y1zAy2y3y4y5",
   "y6y7y8y9x80y1zAy2y3 RA OR RIzAy4y5y6zAy7y8y9x90y1y2y3 EIGHTy4y5y6y7y8y9w400y1y2y3y4y5y6y7y8y9",
   "x10 BEGIN LOGOGRAM MARKzA END LOGOGRAM MARKy1y2y3y4y5y6y7y8y9x20y1y2y3y4y5y6y7y8y9x30y1y2y3y4",
   "y5y6y7y8y9x40y1y2y3y4y5y6y7y8y9x50zAy1y2y3y4y5y6y7zAy8y9x60y1y2y3y4y5y6y7y8y9x70y1y2y3y4y5y6y",
   "7y8y9x80y1y2y3y4y5y6y7y8y9x90y1y2y3y4y5y6y7w501y2y3y4y5y6y7y8y9x10y1y2y3y4y5y6y7y8y9x20y1y2y3",
   "y4y5y6y7y8y9x30@92160aBAMUM LETTER PHASE-A NGKUE MFONvGBIEE FONvPON MFON PIPAEMGBIEEbkBAvNAA ",
   "MFONvSHUENSHUETvTITA MFONvNZA MFONvSHINDA PA NJIvPON PA NJI PIPAEMGBIEEbmBAvMAEMBGBIEEvTU MAE",
   "MBAvNGANGUvMAEMVEUXxNSUAEwVEUAENGAMvSEUNYAMvNTOQPENvKEUKEUTNDAvNKINDIvSUUvNGKUENZEUMvLAPAQwET",
   " KUTvNTAP MFAAvMAEKEUPvPASHAEvGHEUAERAEvPAMSHAEvMON NGGEUAETvNZUN MEUTvU YUQ NAEvGHEUAEGHEUAE",
   "vNTAP NTAAvSISAvMGBASAwEUNJOMNDEUQwOOMPUQvKAFAvPA LEERAEWAvNDA LEERAEWAvPETvMAEMKPENvNIKAvPUP",
   "vTUAEPvLUAEPvSONJAMvTEUTEUWENvMAENYIvKETvNDAANGGEUAETvKUOQvMOOMEUTvSHUMvLOMMAEvFIRIvROMvKPOQv",
   "SOQvMAP PIEETvSHIRAEvNTAPvSHOQ NSHUT YUMvNYIT MONGKEUAEQvPAARAEvNKAARAEvUNKNOWNvNGGENvMAESIvN",
   "JAMvMBANYIvNYETvTEUAENvSOTvPAAMvNSHIEEvMAEMvNYIvKAQvNSHAvVEEvLUvNENwAQvMBAQtB NSHUETvTU MAEMG",
   "BIEEvSIEEwET TUvLOM NTEUMvMBA MAELEEvKIEEMvYEURAEvMBAARAEvKAMvPEESHIvYAFU LEERAEWAvLAM NSHUT ",
   "NYAMvNTIEE SHEUOQwDU NJAAvGHEUGHEUAEMvPITvTU NSIEEvSHET NJAQyUAEQTUvMFON TEUAEQwBIT MBAAKETvN",
   "YI NTEUMvKEUPUQvGHEUGHENvKEUYEUXvLAANAEvPARUMvVEUMvNGKINDI MVOPxGEU MBUvWUAETvSAKEUAEvTAAMvME",
   "UQvNGGUOQbb LARGEvMFIYAQvSUEvMBEURIwONTIEENvNYAEMAEvPUNGAAMvMEUT NGGEETvFEUXvMBUOQvFEEvKEUAEM",
   "vMA NJEUAENAbaUQAvLETvNGGAAMwSENvMAvKIQvNGOMtC NGKUE MAEMBAwZAvYUMvWANGKUOQvNGGENwDEUAEREEwGK",
   "AQvGHARAEvMBEEKEETvGBAYIvNYIR MKPARAQ MEUNwTU MBITvMBEUMvPIRIEENvNDOMBUvMBAA CABBAGE-TREEvKEU",
   "SHEUAEPvGHAPvKEUKAQvYU MUOMAEvNZEUMvMBUEvNSEUAENvMBITvYEUQvKPARAQwAAvSEUXvNDIDAvTAASHAEvNJUEQ",
   "vTITA YUEvSUAETvNGGUAEN NYAMvVEUXvNANSANAQvMA KEUAERIvNTAAwGGUONvLAPvMBIRIEENwGBASAQvNTEUNGBA",
   "vTEUTEUXvNGGUMvFUEvNDEUTwSAxHAQvBUNGvVEUAEPENvMBERAEvRUvNJAEMvLAMvTITUAEPvNSUOT NGOMwJEEEEvKE",
   "TvNGGUvMAESIwBUAEMvLUvKUTvNJAMwGOMvWUPvNGGUEETwSOMwTENvKUOP NKAARAEvNSUNwDAMvMA NSIEEvYAAvNDA",
   "PvSHUEQwETFONvMBIwAEMBAwBANYIvKEUSEUXvMBEUXvKEUMvMBAA PICKETvYUWOQvNJEUXvMIEEwUAEvSHIQvKEN LA",
   "WzFATIGUEvNGAQwAQvLIQvPINwENvTETtD MBUOvWAPvNJIvMFONvNJIEEvLIEEvNJEUTwSHEEwGGAAMAEwYAMvWUAENv",
   "NGKUNvSHEEvNGKAPvKEUAETMEUNvTEUTvSHEUAEvNJAPvSUEvKETvYAEMMAEvKUOMvSAPvMFEUTvNDEUXvMALEERIwEUT",
   "vSEUAEQvYENvNJEUAEMvKEUOT MBUAEvNGKEURIvTUvGHAAvNGKYEEvFEUFEUAETvNDEEvMGBOFUMvLEUAEPvNDONvMON",
   "IwGBEUNvPUUTvMGBIEEwFOvLUMvNSIEEPvMBAAvKWAETvNYETvTEUAENvSOTvYUWOQvKEUMvRAEMvTEEEEvNGKEUAEQvM",
   "FEUAEvNSIEETvKEUPvPIPwEUTAEvNYUEvLETvNGGAAMvMFIEEvNGGWAENvYUOMvPAPvYUOPvNDAMwTEUMvSUAEvKUNvNG",
   "GEUXxKIEEvTUOTvMEUNvKUQvNSUMvTEUNvMAENJETvNGGAPvLEUMvNGGUOMwSHUTwJUEQvGHEUAEvKUvREN OLDvTAEwO",
   "QvNYIvRIIvLEEEEvMEEEEvMvSUUvMUvSHIIxEUXvKYEEvNUvSHUvNTEEvPEEvNIvSHOQvPUQvMVOPvLOQvREN MUCHvTI",
   "vNTUUvMBAA SEVENvSAQvFAAtE NDAPvTOONvMBEUMvLAPvVOMvLOONvPAAvSOMvRAQvNSHUOPwDUNvPUAEvTAMvNGKAv",
   "KPEUXvWUOvSEEvNGGEUAETvPAAMvTOOvKUOPvLOMvNSHIEEwGOPvMAEMvNGKEUXxOQwSHUEvRIMGBAvNJEUXvPEEMvSAA",
   "vNGGURAEvMGBAvGHEUXvNGKEUAEMwJAEMLIvMAPvLOOTvNGGEEEEwDIQvTAEN NTEUMvSETvPUMvNDAA SOFTNESSwGGU",
   "AESHAE NYAMvYIEEvGHEUNvTUAEvYEUAEvPOvTUMAEvKEUAEvSUAENvTEUAEQvVEUAEvWEUXvLAAMvPUvTAAQvGHAAMAE",
   "vNGEUREUTvSHEUAEQvMGBENwBEEvNZAQwKOMvGBETvTUMvKUETvYAPvNYI CLEAVERvYITvMFEUQvNDIAQvPIEEQvYUEQ",
   "vLEUAEMvFUEvGBEUXvNGKUPvKETvMAEvNGKAAMIvGHETvFAvNTUMvPEUTvYEUMvNGGEUAEwYI BETWEENwZUQvPOONvMI",
   "EEvFUETvNAEvMUAEvGHEUAEvFU IvMVIvPUAQvNGKUMvKUTvPIETvNTAPvYEUAETvNGGUPvPA PEOPLEvFU CALLwOMvN",
   "JEEvAvTOQvOvIvLAQvPA PLURALvTAAxQvNDAA MY HOUSEvSHIQvYEUXvNGUAEvYUAENwOQ SWIMMINGzCOVERwUQxNv",
   "KEUXvPEUXvNJEE EPOCHvPUEvWUEvFEEvVEEvLUvMIvREUXwAEvNGUAETxAvSHOyQvFU REMEDYvNAvPIvLOQvKOvMENw",
   "AxQvTEUvKIvMONvTENvFAQvGHOMtF KAvUvKUvEEvREEvTAEvNYIvLAvRIIxEEvMEEEEvTAAvNDAAwJAEMvMvSUUwHIIw",
   "IwEUXvKYEEwETvNUAEwUwJUAEvYOQvSHUvYAvNSHAvPEUXvNTEEvWUEvPEEvRUvNIvREUXvKENvNGKWAENxGAvSHOvPUA",
   "EvFOMvWAvLIwOQvKOvMBENvRENvMAwOwBAAvTETvKPAvSAMBAvVUEQ@92736aMRO LETTER TAlNGIlYOlMIMlBAlDAlA",
   "lPHIlKHAIlHAOlDAIlCHUlKEAAElOLlMAEMlNINlPAlOOlOlROlSHIlTHEAlEAlWAlElKOlLANmAlHAIlRIlTEK@92768",
   "eDIGIT ZEROkONEkTWOlHREEkFOURlIVEkSIXlEVENkEIGHTkNINE@92782fANDAfOUBLE DANDAaTANGSA LETTER OZ",
   "pCpQpXoAZpCpQpXoVZpCpQpXoEZpCpQpXoIZpCpQpXoUZpCpQpXoAWZqCqQqXoUIZqCqQqXoFINAL NGoLONG UEXoSHO",
   "RT UEZuAWXoUECqZqQqXpIUZrCrQrXoMZpCpQpXoKApHAoGAoNGAoSAoYAoWAoPAoNYAoPHAoBAoMAoNAoHAoLAoHTAoT",
   "AoDAoRAoNHAoSHAoCAoTSAoGHAoHTTAoTHAoXAoFAoDHAoCHAoZA@92864hDIGIT ZEROnONEnTWOoHREEnFOURoIVEnS",
   "IXoEVENnEIGHTnNINE@92880aBASSA VAH LETTER ENNIrKArSErFArMBErYIErGAHrDHIIrKPAHrJOrHWAHrWArZOrG",
   "BUrDOrCErUWUrTOrBArVUrYEINrPArWADDArArOsOrUrEErErI@92912kCOMBINING HIGH TONEuLOW TONEuMID TON",
   "EuLOW-MID TONEuHIGH-LOW TONEkFULL STOP@92928aPAHAWH HMONG VOWEL KEEBwVuIBvVuAUBwVuUBvVuEBvVuA",
   "IBwVuOOBwVuAWBwVuUABwVuOBvVuIABwVuABvVuWBvVuAABwVnCONSONANT VAUxNTSAUxLAUxHAUxNLAUxRAUxNKAUxQ",
   "HAUxYAUxHLAUxMAUxCHAUxNCHAUxHNAUxPLHAUxNTHAUyAUxAUxXAUxCAUnMARK CIM TUBwSOwKESxHAVwSUAMwHOMwT",
   "AUMnSIGN VOS THOMxSHAB CEEBsCIM CHEEMsVOS THIABwFEEMsXYEEM NTXIVyRHOyTOVyFAIBsVOS SEEVsMEEJ S",
   "UABsVOS NRUAsIB YAMsXAUSsCIM TSOV ROG@93008nDIGIT ZEROtONEtTWOuHREEtFOURuIVEtSIXuEVENtEIGHTtN",
   "INE@93019nNUMBER TENSuHUNDREDSuTEN THOUSANDSuMILLIONSuHUNDRED MILLIONSuTEN BILLIONSvRILLIONS@",
   "93027nSIGN VOS LUBsXYOOsHLIsTHIRD-STAGE HLIsZWJ THAJsHNUBsNQIGsXIABsNTUJsAVsTXHEEJ CEEVsMEEJ ",
   "TSEEBsTAUsLOSsMUSsCIM HAIS LUS NTOG NTOGwCUAM TSHOOJwTXWVba CHWVwPUB DAWBwNRES TOS@93053nCLAN",
   " SIGN TSHEEJxYEEGxLISyAUJxXYOOJxKOOxHAWJxMUASxTHOJySABxPHABxKHABxHAMxVAJxFAJxYAJxTSWBxKWMxVWJ",
   "@93760aMEDEFAIDRIN CAPITAL LETTER MbbSbbVbbWbbATIUbbZbbKPbbPbbTbbGbbFbbIbbKbbAbbJbbEbbBbbCbbU",
   "bbYUbbLbbQbbHPbbNYbbXbbDbbOEbbNbbRbbObbAIbbYmSMALL LETTER MzSzVzWzATIUzZzKPzPzTzGzFzIzKzAzJzE",
   "zBzCzUzYUzLzQzHPzNYzXzDzOEzNzRzOzAIzYmDIGIT ZEROsONEsTWOtHREEsFOURtIVEsSIXtEVENsEIGHTsNINEmNU",
   "MBER TENtELEVENtTWELVEuHIRTEENtFOURTEENuIFTEENtSIXTEENuEVENTEENtEIGHTEENtNINETEENmDIGIT ONE A",
   "LTERNATE FORMsTWO ALTERNATE FORMtHREE ALTERNATE FORMmCOMMAmFULL STOPmSYMBOL AIVAmEXCLAMATION ",
   "OH@93952bIAO LETTER PAmBAmYI PAmPLAmMAnHAmARCHAIC MAmFAmVAnFAmTAmDAmYI TTAqAmTTAmDDAmNAnHAmYI",
   " NNAmARCHAIC NAmNNAoHAmLAnYAnHAoYAmTLHAmDLHAmTLHYAmDLHYAmKAmGAmYI KAmQAnGAmNGAoHAmARCHAIC NGA",
   "mHAmXAmGHAoHAmTSSAmDZZAmNYAoHAmTSHAmDZHAmYI TSHApDZHAmREFORMED TSHAmSHAnSAmZHAnSHAmTSAmDZAmYI",
   " TSAmSAmZAnSAnZAoSAmARCHAIC ZZAmZZYAoSYAmWAmAHmHHAmBRImSYImDZYImTEnSEmRTE@94031fSIGN CONSONAN",
   "T MODIFIER BARfLETTER NASALIZATIONfSIGN ASPIRATIONkREFORMED VOICINGtASPIRATIONfVOWEL SIGN ArA",
   "rHHrNsGqOrOqWOqWqErNsGqOEYqIrAsNtGrOrErIrUrNGqUrAsNtGrUrEIrNGqYrIqAEsEqERRqROUNDED ERRqERqROU",
   "NDED ERqAIqEIqAUqOUqNrGqUOGqYUIqOGrERqVWqIGqEAqIONGqUI@94095fTONE RIGHTkTOP RIGHTkABOVEkBELOW",
   "fLETTER TONE-2r3r4r5r6r7r8mREFORMED TONE-1ba2ba4ba5ba6ba8@94176aTANGUT ITERATION MARKaNUSHU I",
   "TERATION MARKaOLD CHINESE HOOK MARKmITERATION MARKaKHITAN SMALL SCRIPT FILLER@94192aVIETNAMES",
   "E ALTERNATE READING MARK CAbiNHAY@100352aTANGUT COMPONENT-001t2t3t4t5t6t7t8t9s10t1t2t3t4t5t6t",
   "7t8t9s20t1t2t3t4t5t6t7t8t9s30t1t2t3t4t5t6t7t8t9s40t1t2t3t4t5t6t7t8t9s50t1t2t3t4t5t6t7t8t9s60t",
   "1t2t3t4t5t6t7t8t9s70t1t2t3t4t5t6t7t8t9s80t1t2t3t4t5t6t7t8t9s90t1t2t3t4t5t6t7t8t9r100t1t2t3t4t",
   "5t6t7t8t9s10t1t2t3t4t5t6t7t8t9s20t1t2t3t4t5t6t7t8t9s30t1t2t3t4t5t6t7t8t9s40t1t2t3t4t5t6t7t8t9",
   "s50t1t2t3t4t5t6t7t8t9s60t1t2t3t4t5t6t7t8t9s70t1t2t3t4t5t6t7t8t9s80t1t2t3t4t5t6t7t8t9s90t1t2t3",
   "t4t5t6t7t8t9r200t1t2t3t4t5t6t7t8t9s10t1t2t3t4t5t6t7t8t9s20t1t2t3t4t5t6t7t8t9s30t1t2t3t4t5t6t7",
   "t8t9s40t1t2t3t4t5t6t7t8t9s50t1t2t3t4t5t6t7t8t9s60t1t2t3t4t5t6t7t8t9s70t1t2t3t4t5t6t7t8t9s80t1",
   "t2t3t4t5t6t7t8t9s90t1t2t3t4t5t6t7t8t9r300t1t2t3t4t5t6t7t8t9s10t1t2t3t4t5t6t7t8t9s20t1t2t3t4t5",
   "t6t7t8t9s30t1t2t3t4t5t6t7t8t9s40t1t2t3t4t5t6t7t8t9s50t1t2t3t4t5t6t7t8t9s60t1t2t3t4t5t6t7t8t9s",
   "70t1t2t3t4t5t6t7t8t9s80t1t2t3t4t5t6t7t8t9s90t1t2t3t4t5t6t7t8t9r400t1t2t3t4t5t6t7t8t9s10t1t2t3",
   "t4t5t6t7t8t9s20t1t2t3t4t5t6t7t8t9s30t1t2t3t4t5t6t7t8t9s40t1t2t3t4t5t6t7t8t9s50t1t2t3t4t5t6t7t",
   "8t9s60t1t2t3t4t5t6t7t8t9s70t1t2t3t4t5t6t7t8t9s80t1t2t3t4t5t6t7t8t9s90t1t2t3t4t5t6t7t8t9r500t1",
   "t2t3t4t5t6t7t8t9s10t1t2t3t4t5t6t7t8t9s20t1t2t3t4t5t6t7t8t9s30t1t2t3t4t5t6t7t8t9s40t1t2t3t4t5t",
   "6t7t8t9s50t1t2t3t4t5t6t7t8t9s60t1t2t3t4t5t6t7t8t9s70t1t2t3t4t5t6t7t8t9s80t1t2t3t4t5t6t7t8t9s9",
   "0t1t2t3t4t5t6t7t8t9r600t1t2t3t4t5t6t7t8t9s10t1t2t3t4t5t6t7t8t9s20t1t2t3t4t5t6t7t8t9s30t1t2t3t",
   "4t5t6t7t8t9s40t1t2t3t4t5t6t7t8t9s50t1t2t3t4t5t6t7t8t9s60t1t2t3t4t5t6t7t8t9s70t1t2t3t4t5t6t7t8",
   "t9s80t1t2t3t4t5t6t7t8t9s90t1t2t3t4t5t6t7t8t9r700t1t2t3t4t5t6t7t8t9s10t1t2t3t4t5t6t7t8t9s20t1t",
   "2t3t4t5t6t7t8t9s30t1t2t3t4t5t6t7t8t9s40t1t2t3t4t5t6t7t8t9s50t1t2t3t4t5t6t7t8t9s60t1t2t3t4t5t6",
   "t7t8@110576aKATAKANA LETTER MINNAN TONE-2bc3bc4bc5@110581bc7bc8xNASALIZED TONE-1bm2bm3bm4bm5@",
   "110589bm7bm8@110592qARCHAIC EaHIRAGANA LETTER ARCHAIC YEbENTAIGANA LETTER A-1u2u3uWOsI-1u2u3u",
   "4sU-1u2u3u4u5sE-2u3u4u5u6sO-1u2u3sKA-1v2v3v4v5v6v7v8v9v10w1vKEtI-1v2v3v4v5v6v7v8tU-1v2v3v4v5v",
   "6v7tE-1v2v3v4v5v6tO-1v2v3vKIsSA-1v2v3v4v5v6v7v8tI-1v2v3v4v5v6tU-1v2v3v4v5v6v7v8tE-1v2v3v4v5tO",
   "-1v2v3v4v5v6v7sTA-1v2v3v4tI-1v2v3v4v5v6v7tU-1v2v3v4vTOtE-1v2v3v4v5v6v7v8v9tO-1v2v3v4v5v6vRAsN",
   "A-1v2v3v4v5v6v7v8v9tI-1v2v3v4v5v6v7vTEtU-1v2v3tE-1v2v3v4v5v6vKOtO-1v2v3v4v5sHA-1v2v3v4v5v6v7v",
   "8v9v10w1tI-1v2v3v4v5v6v7tU-1v2v3tE-1v2v3v4v5v6v7tO-1v2v3v4v5v6v7v8sMA-1v2v3v4v5v6v7tI-1v2v3v4",
   "v5v6v7tU-1v2v3v4tE-1v2vMAtO-1v2v3v4v5v6sYA-1v2v3v4v5vYOtU-1v2v3v4tO-1v2v3v4v5v6sRA-1v2v3v4tI-",
   "1v2v3v4v5v6v7tU-1v2v3v4v5v6tE-1v2v3v4tO-1v2v3v4v5v6sWA-1v2v3v4v5tI-1v2v3v4v5tE-1v2v3v4tO-1v2v",
   "3v4v5v6v7sN-MU-MO-1ba2bIRAGANA LETTER ARCHAIC WUaKATAKANA LETTER ARCHAIC YIzEyWU@110928aHIRAG",
   "ANA LETTER SMALL WIxExO@110948aKATAKANA LETTER SMALL WIxExOwN@113664aDUPLOYAN LETTER HqXqPqTq",
   "FqKqLqBqDqVqGqRqP NqD SqF NqK MqR SqTHqSLOAN DHqDHqKKqSLOAN JqHLqLHqRHqMqNqJqSqM NqN MqJ MqS ",
   "JqM WITH DOTqN WITH DOTqJ WITH DOTbaS INSIDE AND ABOVEqS WITH DOTba BELOWqM SqN SqJ SqS SqM N",
   " SqN M SqJ M SqS J SqJ S WITH DOTsNt SqS Tt RsPt RqT SsR SqWrHr RqS NsMqK R SqG R SqS Kt RqAq",
   "SLOAN OWqOAqOqAOUqIqEqIEqSHORT IqUIqEEqSLOAN EHqROMANIAN IqSLOAN EEqLONG IqYEqUqEUqXWqU NqLON",
   "G UqROMANIAN UqUHqSLOAN UqOOHrWrUqWArOrIrEIrOWqNASAL UwOwIwAqPERNIN ANyMqSLOAN ENwANwONqVOCAL",
   "IC M@113776jAFFIX LEFT HORIZONTAL SECANTpMID HORIZONTAL SECANTpRIGHT HORIZONTAL SECANTpLOW VE",
   "RTICAL SECANTpMID VERTICAL SECANTpHIGH VERTICAL SECANTpATTACHED SECANTyLEFT-TO-RIGHT SECANTyT",
   "ANGENTbaILyE HOOKyI HOOKyTANGENT HOOK@113792pHIGH ACUTEuTIGHT ACUTEuGRAVEuLONG GRAVEuDOTuCIRC",
   "LEuLINEuWAVEuVERTICAL@113808pLOW ACUTEtTIGHT ACUTEtGRAVEtLONG GRAVEtDOTtCIRCLEtLINEtWAVEtVERT",
   "ICALtARROW@113820jSIGN O WITH CROSSjTHICK LETTER SELECTORjDOUBLE MARKjPUNCTUATION CHINOOK FUL",
   "L STOPaSHORTHAND FORMAT LETTER OVERLAPrCONTINUING OVERLAPrDOWN STEPrUP STEP@118528aZNAMENNY C",
   "OMBINING MARK GORAZDO NIZKO S KRYZHEM ON LEFTyNIZKO S KRYZHEM ON LEFTyTSATA ON LEFTyGORAZDO N",
   "IZKO ON LEFTyNIZKO ON LEFTySREDNE ON LEFTyMALO POVYSHE ON LEFTyPOVYSHE ON LEFTyVYSOKO ON LEFT",
   "yMALO POVYSHE S KHOKHLOM ON LEFTyPOVYSHE S KHOKHLOM ON LEFTyVYSOKO S KHOKHLOM ON LEFTyGORAZDO",
   " NIZKO S KRYZHEM ON RIGHTyNIZKO S KRYZHEM ON RIGHTyTSATA ON RIGHTyGORAZDO NIZKO ON RIGHTyNIZK",
   "O ON RIGHTySREDNE ON RIGHTyMALO POVYSHE ON RIGHTyPOVYSHE ON RIGHTyVYSOKO ON RIGHTyMALO POVYSH",
   "E S KHOKHLOM ON RIGHTyPOVYSHE S KHOKHLOM ON RIGHTyVYSOKO S KHOKHLOM ON RIGHTyTSATA S KRYZHEMy",
   "MALO POVYSHE S KRYZHEMySTRANNO MALO POVYSHEyPOVYSHE S KRYZHEMbhTRANNOyVYSOKO S KRYZHEMyMALO P",
   "OVYSHE STRANNOyGORAZDO VYSOKOyZELOyONyRAVNOyTIKHAYAyBORZAYAyUDARKAyPODVERTKAyLOMKAyKUPNAYAzAC",
   "HKAyZEVOKySKOBAyRAZSEKAyKRYZH ON LEFT@118576tTONAL RANGE MARK MRACHNObkSVETLObkTRESVETLOtMARK",
   " ZADERZHKAyDEMESTVENNY ZADERZHKAyOTSECHKAyPODCHASHIEbi WITH VERTICAL STROKEyCHASHKAbf POLNAYA",
   "yOBLACHKOySOROCHYA NOZHKAyTOCHKAyDVOETOCHIEtATTACHING VERTICAL OMETtMARK CURVED OMETyKRYZHtLO",
   "WER TONAL RANGE INDICATORjPRIZNAK MODIFIER LEVEL-2bg3baDIRECTION FLIPbaKRYZHbaROG@118608jNEUM",
   "E KRYUKu TIKHYpPARAKLITpDVA V CHELNUpKLYUCHpZANOZHEKpSTOPITSAx S OCHKOMpPEREVODKAy NEPOSTOYAN",
   "NAYApSTOPITSA WITH SOROCHYA NOZHKApCHELYUSTKApPALKApZAPYATAYApGOLUBCHIK BORZYzTIKHYzMRACHNYzS",
   "VETLYzTRESVETLYpVRAKHIYA PROSTAYAyMRACHNAYAySVETLAYAyTRESVETLAYAyKLYUCHEVAYA PROSTAYAbkMRACHN",
   "AYAbkSVETLAYAbkTRESVETLAYApDOUBLE ZAPYATAYApREVERSED CHELYUSTKApDERBITSApKHAMILOpCHASHKApPODC",
   "HASHIEpSKAMEYTSA MRACHNAYAzSVETLAYAzTRESVETLAYAbaIKHAYApDEMESTVENNY KLYUCHpSKAMEYTSA KLYUCHEV",
   "AYA SVETLAYAbgNEPOSTOYANNAYAbgVAYA TIKHAYAzDVOECHELNAYA PROSTAYAbmSVETLAYAbmNEPOSTOYANNAYAbmK",
   "LYUCHEVAYAqLOZHITIEy S ZAPYATOYzZAKRYTOEzS KRYZHEMpKRYZHpROGpFITApKOBYLApZMEYTSApSTATYAv S ZA",
   "PYATOYyKRYZHEMyZAPYATOY I KRYZHEMyKRYZHEM I ZAPYATOYwZAKRYTAYAbf S ZAPYATOYwS ROGOMyDVUMYA ZA",
   "PYATYMIyZAPYATOY I PODCHASHIEMpPOLKULIZMYpSTATYA NEPOSTOYANNAYArRELA PROSTAYAwMRACHNOTIKHAYAw",
   "KRYZHEVAYAwPOLUPOVODNAYAyVODNAYAwNEPOSTOYANNAYAwKLYUCHEPOVODNAYAbdNEPOSTOYANNAYAwTIKHAYA PUTN",
   "AYAwDVOECHELNAYAbfOKRYZHEVAYAbgPOVODNAYAbfAYA KLYUCHEVAYAbfOPOVODNAYA KLYUCHEVAYAwGROMNAYA WI",
   "TH SINGLE ZAPYATAYAbaOPOVODNAYA WITH SINGLE ZAPYATAYAbaNAYAbaOPOVODNAYAbk WITH DOUBLE ZAPYATA",
   "YAbbKRYZHEVAYAbl POVODNAYApMECHIKv POVODNYwKLYUCHEVOYbdPOVODNYbdNEPOSTOYANNYpSTRELA TRYASOGLA",
   "SNAYAbcPOVODNAYAbcSTRELNAYApOSOKAu SVETLAYAvTRESVETLAYAvKRYUKOVAYA SVETLAYAwLYUCHEVAYA SVETLA",
   "YAbhNEPOSTOYANNAYApSTRELA KRYUKOVAYAbg POVODNAYAbhGROMNAYA WITH SINGLE ZAPYATAYAblOPOVODNAYA ",
   "WITH SINGLE ZAPYATAYAblNAYAblOPOVODNAYAbv WITH DOUBLE ZAPYATAYAbmKRYZHEVAYAbw POVODNAYAbhTRYA",
   "SKApKUFISMApOBLAKOpDUDApNEMKApPAUK@118784aBYZANTINE MUSICAL SYMBOL PSILIzDASEIAzPERISPOMENIzO",
   "XEIA EKFONITIKONbfDIPLIzVAREIA EKFONITIKONbgDIPLIzKATHISTIzSYRMATIKIzPARAKLITIKIzYPOKRISISbi ",
   "DIPLIzKREMASTIzAPESO EKFONITIKONzEXO EKFONITIKONzTELEIAzKENTIMATAzAPOSTROFOSbj DIPLIzSYNEVMAz",
   "THITAzOLIGON ARCHAIONzGORGON ARCHAIONzPSILONzCHAMILONzVATHYzISON ARCHAIONzKENTIMA ARCHAIONbgT",
   "A ARCHAIONzSAXIMATAzPARICHONzSTAVROS APODEXIAzOXEIAI ARCHAIONzVAREIAI ARCHAIONzAPODERMA ARCHA",
   "IONbcTHEMAzKLASMAzREVMAzPIASMA ARCHAIONzTINAGMAzANATRICHISMAzSEISMAbaYNAGMA ARCHAIONbhMETA ST",
   "AVROUzOYRANISMA ARCHAIONzTHEMAzLEMOIzDYOzTRIAbaESSERAzKRATIMATAzAPESO EXO NEOzFTHORA ARCHAION",
   "zIMIFTHORAzTROMIKON ARCHAIONzKATAVA TROMIKONzPELASTONbaSIFISTONzKONTEVMAzCHOREVMA ARCHAIONzRA",
   "PISMAzPARAKALESMA ARCHAIONbeLITIKI ARCHAIONzICHADINzNANAzPETASMAzKONTEVMA ALLOzTROMIKON ALLOz",
   "STRAGGISMATAzGRONTHISMATAzISON NEOzOLIGON NEObaXEIA NEOzPETASTIzKOUFISMAzPETASTOKOUFISMAzKRAT",
   "IMOKOUFISMAzPELASTON NEOzKENTIMATA NEO ANObg NEO ANOzYPSILIzAPOSTROFOS NEObiI SYNDESMOS NEOzY",
   "PORROIzKRATIMOYPORROONzELAFRONzCHAMILIzMIKRON ISONzVAREIA NEOzPIASMA NEObaSIFISTON NEOzOMALON",
   "zANTIKENOMAzLYGISMAzPARAKLITIKI NEObeALESMA NEOzETERON PARAKALESMAzKYLISMAzANTIKENOKYLISMAzTR",
   "OMIKON NEOzEKSTREPTONzSYNAGMA NEObbRMAzCHOREVMA NEOzEPEGERMAzSEISMA NEOzXIRON KLASMAzTROMIKOP",
   "SIFISTONzPSIFISTOLYGISMAzTROMIKOLYGISMAbgPARAKALESMAzPSIFISTOPARAKALESMAzTROMIKOSYNAGMAzPSIFI",
   "STOSYNAGMAzGORGOSYNTHETONzARGOSYNTHETONzETERON ARGOSYNTHETONzOYRANISMA NEOzTHEMATISMOS ESObmX",
   "Obe APLOUNbcS KAI APOTHESzKATAVASMAzENDOFONONzYFEN KATObeANOzSTAVROSzKLASMA ANOzDIPLI ARCHAIO",
   "NzKRATIMA ARCHAIONbiLLObhNEOzAPODERMA NEObbLIzDIPLIzTRIPLIbaETRAPLIzKORONISzLEIMMA ENOS CHRON",
   "OUbgDYO CHRONONbgTRION CHRONONbhESSARON CHRONONbgIMISEOS CHRONOUzGORGON NEO ANObgPARESTIGMENO",
   "N ARISTERAbuDEXIAzDIGORGONbh PARESTIGMENON ARISTERA KATOcfANObwDEXIAzTRIGORGONzARGONzIMIDIARG",
   "ONzDIARGONzAGOGI POLI ARGIbfARGOTERIbiIbfMETRIAbhSIbfGORGIbjOTERIbfPOLI GORGIzMARTYRIA PROTOS",
   " ICHOSbiALLI PROTOS ICHOSbiDEYTEROS ICHOSbiALLI DEYTEROS ICHOSbiTRITOS ICHOSblFONIASbjETARTOS",
   " ICHOSbrLEGETOS ICHOSbiLEGETOS ICHOSbiPLAGIOS ICHOSzISAKIA TELOUS ICHIMATOSzAPOSTROFOI TELOUS",
   " ICHIMATOSzFANEROSIS TETRAFONIASbjMONOFONIASbjDIFONIASzMARTYRIA VARYS ICHOSbiPROTOVARYS ICHOS",
   "bjLAGIOS TETARTOS ICHOSzGORTHMIKON N APLOUNbmDIPLOUNzENARXIS KAI FTHORA VOUzIMIFONONbdTHORONz",
   "FTHORA ARCHAION DEYTEROU ICHOUbgDIATONIKI PAbqNANAbgNAOS ICHOSbgDIATONIKI DIbgSKLIRON DIATONO",
   "N DIbgDIATONIKI KEbqZObqNI KATObtANObgMALAKON CHROMA DIFONIASbvMONOFONIASbaHTORA SKLIRON CHRO",
   "MA VASISbaTHORA SKLIRON CHROMA SYNAFIbgNENANOzCHROA ZYGOSbfKLITONbfSPATHIzFTHORA I YFESIS TET",
   "ARTIMORIONbgENARMONIOS ANTIFONIAzYFESIS TRITIMORIONzDIESIS TRITIMORIONbhETARTIMORIONbgAPLI DY",
   "O DODEKATAbgMONOGRAMMOS TESSERA DODEKATAbgDIGRAMMOS EX DODEKATAbgTRIGRAMMOS OKTO DODEKATAzYFE",
   "SIS APLI DYO DODEKATAbgMONOGRAMMOS TESSERA DODEKATAbgDIGRAMMOS EX DODEKATAbgTRIGRAMMOS OKTO D",
   "ODEKATAzGENIKI DIESISbgYFESISzDIASTOLI APLI MIKRIboEGALIbiDIPLIbiTHESEOSzSIMANSIS THESEOSbp D",
   "ISIMOUbqTRISIMOUbrETRASIMOUbiARSEOSbo DISIMOUbpTRISIMOUbqETRASIMOUzDIGRAMMA GGbbFTOGGOS OUzST",
   "IGMAzARKTIKO PAbhVOUbhGAbhDIbhKEbhZObhNIzKENTIMATA NEO MESObg NEO MESObgTA NEO KATObg NEO KAT",
   "ObaLASMA KATOzGORGON NEO KATO@119040aMUSICAL SYMBOL SINGLE BARLINEpDOUBLE BARLINEpFINAL BARLI",
   "NEpREVERSE FINAL BARLINEpDASHED BARLINEpSHORT BARLINEpLEFT REPEAT SIGNpRIGHT REPEAT SIGNqEPEA",
   "T DOTSpDAL SEGNOr CAPOpSEGNOpCODApREPEATED FIGURE-1bf2bf3pFERMATAw BELOWpBREATH MARKpCAESURAp",
   "BRACEtKETpONE-LINE STAFFpTWO-LINE STAFFqHREE-LINE STAFFpFOUR-LINE STAFFqIVE-LINE STAFFpSIX-LI",
   "NE STAFFtSTRING FRETBOARDpFOUR-STRING FRETBOARDpG CLEFv OTTAVA ALTAbdBASSApC CLEFpF CLEFv OTT",
   "AVA ALTAbdBASSApDRUM CLEF-1z2@119081pMULTIPLE MEASURE RESTpDOUBLE SHARPwFLATpFLAT UPuDOWNpNAT",
   "URAL UPxDOWNpSHARP UPvDOWNpQUARTER TONE SHARPbcFLATpCOMMON TIMEqUT TIMEpOTTAVA ALTAwBASSApQUI",
   "NDICESIMA ALTAbcBASSApMULTI RESTpWHOLE RESTpHALF RESTpQUARTER RESTpEIGHTH RESTpSIXTEENTH REST",
   "pTHIRTY-SECOND RESTpSIXTY-FOURTH RESTpONE HUNDRED TWENTY-EIGHTH RESTpX NOTEHEADpPLUS NOTEHEAD",
   "pCIRCLE X NOTEHEADpSQUARE NOTEHEAD WHITEbfBLACKpTRIANGLE NOTEHEAD UP WHITEbkBLACKbhLEFT WHITE",
   "bmBLACKbhRIGHT WHITEbnBLACKbhDOWN WHITEbmBLACKbhUP RIGHT WHITEbqBLACKpMOON NOTEHEAD WHITEbdBL",
   "ACKpTRIANGLE-ROUND NOTEHEAD DOWN WHITEbsBLACKpPARENTHESIS NOTEHEADpVOID NOTEHEADpNOTEHEAD BLA",
   "CKqULL NOTEHEADpCLUSTER NOTEHEAD WHITEbgBLACKpBREVEpWHOLE NOTEpHALF NOTEpQUARTER NOTEpEIGHTH ",
   "NOTEpSIXTEENTH NOTEpTHIRTY-SECOND NOTEpSIXTY-FOURTH NOTEpONE HUNDRED TWENTY-EIGHTH NOTEpCOMBI",
   "NING STEMbaPRECHGESANG STEMzTREMOLO-1bh2bh3pFINGERED TREMOLO-1bg2bg3pCOMBINING AUGMENTATION D",
   "OTzFLAG-1be2be3be4be5pBEGIN BEAMpEND BEAMpBEGIN TIEpEND TIEpBEGIN SLURpEND SLURpBEGIN PHRASEp",
   "END PHRASEpCOMBINING ACCENTzSTACCATOzTENUTOzSTACCATISSIMOzMARCATObg-STACCATOzACCENT-STACCATOz",
   "LOUREpARPEGGIATO UPbaDOWNpCOMBINING DOITzRIPzFLIPzSMEARzBENDzDOUBLE TONGUEzTRIPLE TONGUEpRINF",
   "ORZANDOpSUBITOpZpPIANOpMEZZOpFORTEpCRESCENDOpDECRESCENDOpGRACE NOTE SLASHbaNO SLASHpTRqURNpIN",
   "VERTED TURNpTURN SLASHuUPpORNAMENT STROKE-1bf2bf3bf4bf5bf6bf7bf8bf9bf10bg1pHAUPTSTIMMEpNEBENS",
   "TIMMEpEND OF STIMMEpDEGREE SLASHpCOMBINING DOWN BOWzUP BOWzHARMONICzSNAP PIZZICATOpPEDAL MARK",
   "vUP MARKpHALF PEDAL MARKpGLISSANDO UPzDOWNpWITH FINGERNAILSpDAMPt ALLpMAXIMApLONGApBREVISpSEM",
   "IBREVIS WHITEbaBLACKpMINIMAv BLACKpSEMIMINIMA WHITEbaBLACKpFUSA WHITEuBLACKpLONGA PERFECTA RE",
   "STvIMPERFECTA RESTpBREVIS RESTpSEMIBREVIS RESTpMINIMA RESTpSEMIMINIMA RESTpTEMPUS PERFECTUM C",
   "UM PROLATIONE PERFECTAbvIMPERFECTAbvPERFECTA DIMINUTION-1wIMPERFECTUM CUM PROLATIONE PERFECTA",
   "bxIMPERFECTAch DIMINUTION-1ct2ct3pCROIXpGREGORIAN C CLEFzF CLEFpSQUARE BpVIRGApPODATUSpCLIVIS",
   "pSCANDICUSpCLIMACUSpTORCULUSpPORRECTUSy FLEXUSpSCANDICUS FLEXUSpTORCULUS RESUPINUSpPES SUBPUN",
   "CTISpKIEVAN C CLEFwEND OF PIECEwFINAL NOTEwRECITATIVE MARKwWHOLE NOTEwHALF NOTEwQUARTER NOTE ",
   "STEM DOWNboUPwEIGHTH NOTE STEM DOWNbnUPwFLAT SIGNpSORIpKORON@119296aGREEK VOCAL NOTATION SYMB",
   "OL-1bc2bc3bc4bc5bc6bc7bc8bc9bc10bd1bd2bd3bd4bd5bd6bd7bd8bd9bc20bd1bd2bd3bd4bc50bd1bd2bd3bd4gI",
   "NSTRUMENTAL NOTATION SYMBOL-1bj2bj4bj5bj7bj8bj11bk2bk3bk4bk7bk8bk9bj23bk4bk5bk6bk7bk9bj30bk2b",
   "k6bk7bk8bk9bj40bk2bk3bk5bk7bk8bk9bj50bk1bk2bk3bk4aCOMBINING GREEK MUSICAL TRISEMEzETRASEMEyPE",
   "NTASEMEaGREEK MUSICAL LEIMMA@119520aMAYAN NUMERAL ZEROoONEoTWOpHREEoFOURpIVEoSIXpEVENoEIGHToN",
   "INEoTENoELEVENoTWELVEpHIRTEENoFOURTEENpIFTEENoSIXTEENpEVENTEENoEIGHTEENoNINETEEN@119552bONOGR",
   "AM FOR EARTHaDIGRAM FOR HEAVENLY EARTHmUMAN EARTHlEARTHLY HEAVENuUMANpHaTETRAGRAM FOR CENTREo",
   "FULL CIRCLEoMIREDoBARRIERoKEEPING SMALLoCONTRARIETYoASCENToOPPOSITIONoBRANCHING OUToDEFECTIVE",
   "NESS OR DISTORTIONpIVERGENCEoYOUTHFULNESSoINCREASEoPENETRATIONoREACHoCONTACToHOLDING BACKoWAI",
   "TINGoFOLLOWINGoADVANCEoRELEASEqSISTANCEoEASEoJOYoCONTENTIONoENDEAVOURoDUTIESoCHANGEoDECISIVEN",
   "ESSoBOLD RESOLUTIONoPACKINGoLEGIONoCLOSENESSoKINSHIPoGATHERINGoSTRENGTHoPURITYoFULLNESSoRESID",
   "ENCEoLAW OR MODELoRESPONSEoGOING TO MEEToENCOUNTERSoSTOVEoGREATNESSoENLARGEMENToPATTERNoRITUA",
   "LoFLIGHToVASTNESS OR WASTINGoCONSTANCYoMEASUREoETERNITYoUNITYoDIMINISHMENToCLOSED MOUTHoGUARD",
   "EDNESSpATHERING INoMASSINGoACCUMULATIONoEMBELLISHMENToDOUBToWATCHoSINKINGoINNERoDEPARTUREpARK",
   "ENINGpIMMINGoEXHAUSTIONoSEVERANCEpTOPPAGEoHARDNESSoCOMPLETIONpLOSUREoFAILUREoAGGRAVATIONoCOMP",
   "LIANCEoON THE VERGEoDIFFICULTIESoLABOURINGoFOSTERING@119648aCOUNTING ROD UNIT DIGIT ONEyTWOzH",
   "REEyFOURzIVEySIXzEVENyEIGHTyNINEnTENS DIGIT ONEyTWOzHREEyFOURzIVEySIXzEVENyEIGHTyNINEaIDEOGRA",
   "PHIC TALLY MARK ONExTWOyHREExFOURyIVEaTALLY MARK ONElFIVE@119808aMATHEMATICAL BOLD CAPITAL Ab",
   "aBbaCbaDbaEbaFbaGbaHbaIbaJbaKbaLbaMbaNbaObaPbaQbaRbaSbaTbaUbaVbaWbaXbaYbaZsSMALL AyByCyDyEyFy",
   "GyHyIyJyKyLyMyNyOyPyQyRySyTyUyVyWyXyYyZnITALIC CAPITAL AbcBbcCbcDbcEbcFbcGbcHbcIbcJbcKbcLbcMb",
   "cNbcObcPbcQbcRbcSbcTbcUbcVbcWbcXbcYbcZuSMALL AbaBbaCbaDbaEbaFbaG@119894baIbaJbaKbaLbaMbaNbaOb",
   "aPbaQbaRbaSbaTbaUbaVbaWbaXbaYbaZnBOLD ITALIC CAPITAL AbhBbhCbhDbhEbhFbhGbhHbhIbhJbhKbhLbhMbhN",
   "bhObhPbhQbhRbhSbhTbhUbhVbhWbhXbhYbhZzSMALL AbfBbfCbfDbfEbfFbfGbfHbfIbfJbfKbfLbfMbfNbfObfPbfQb",
   "fRbfSbfTbfUbfVbfWbfXbfYbfZnSCRIPT CAPITAL A@119966bcCbcD@119970bcG@119973bcJbcK@119977bcNbcOb",
   "cPbcQ@119982bcSbcTbcUbcVbcWbcXbcYbcZuSMALL AbaBbaCbaD@119995baF@119997baHbaIbaJbaKbaLbaMbaN@1",
   "20005baPbaQbaRbaSbaTbaUbaVbaWbaXbaYbaZnBOLD SCRIPT CAPITAL AbhBbhCbhDbhEbhFbhGbhHbhIbhJbhKbhL",
   "bhMbhNbhObhPbhQbhRbhSbhTbhUbhVbhWbhXbhYbhZzSMALL AbfBbfCbfDbfEbfFbfGbfHbfIbfJbfKbfLbfMbfNbfOb",
   "fPbfQbfRbfSbfTbfUbfVbfWbfXbfYbfZnFRAKTUR CAPITAL AbdB@120071bdDbdEbdFbdG@120077bdJbdKbdLbdMbd",
   "NbdObdPbdQ@120086bdSbdTbdUbdVbdWbdXbdY@120094vSMALL AbbBbbCbbDbbEbbFbbGbbHbbIbbJbbKbbLbbMbbNb",
   "bObbPbbQbbRbbSbbTbbUbbVbbWbbXbbYbbZnDOUBLE-STRUCK CAPITAL AbjB@120123bjDbjEbjFbjG@120128bjIbj",
   "JbjKbjLbjM@120134bjO@120138bjSbjTbjUbjVbjWbjXbjY@120146bbSMALL AbhBbhCbhDbhEbhFbhGbhHbhIbhJbh",
   "KbhLbhMbhNbhObhPbhQbhRbhSbhTbhUbhVbhWbhXbhYbhZnBOLD FRAKTUR CAPITAL AbiBbiCbiDbiEbiFbiGbiHbiI",
   "biJbiKbiLbiMbiNbiObiPbiQbiRbiSbiTbiUbiVbiWbiXbiYbiZbaSMALL AbgBbgCbgDbgEbgFbgGbgHbgIbgJbgKbgL",
   "bgMbgNbgObgPbgQbgRbgSbgTbgUbgVbgWbgXbgYbgZnSANS-SERIF CAPITAL AbgBbgCbgDbgEbgFbgGbgHbgIbgJbgK",
   "bgLbgMbgNbgObgPbgQbgRbgSbgTbgUbgVbgWbgXbgYbgZySMALL AbeBbeCbeDbeEbeFbeGbeHbeIbeJbeKbeLbeMbeNb",
   "eObePbeQbeRbeSbeTbeUbeVbeWbeXbeYbeZyBOLD CAPITAL AblBblCblDblEblFblGblHblIblJblKblLblMblNblOb",
   "lPblQblRblSblTblUblVblWblXblYblZbdSMALL AbjBbjCbjDbjEbjFbjGbjHbjIbjJbjKbjLbjMbjNbjObjPbjQbjRb",
   "jSbjTbjUbjVbjWbjXbjYbjZyITALIC CAPITAL AbnBbnCbnDbnEbnFbnGbnHbnIbnJbnKbnLbnMbnNbnObnPbnQbnRbn",
   "SbnTbnUbnVbnWbnXbnYbnZbfSMALL AblBblCblDblEblFblGblHblIblJblKblLblMblNblOblPblQblRblSblTblUbl",
   "VblWblXblYblZyBOLD ITALIC CAPITAL AbsBbsCbsDbsEbsFbsGbsHbsIbsJbsKbsLbsMbsNbsObsPbsQbsRbsSbsTb",
   "sUbsVbsWbsXbsYbsZbkSMALL AbqBbqCbqDbqEbqFbqGbqHbqIbqJbqKbqLbqMbqNbqObqPbqQbqRbqSbqTbqUbqVbqWb",
   "qXbqYbqZnMONOSPACE CAPITAL AbfBbfCbfDbfEbfFbfGbfHbfIbfJbfKbfLbfMbfNbfObfPbfQbfRbfSbfTbfUbfVbf",
   "WbfXbfYbfZxSMALL AbdBbdCbdDbdEbdFbdGbdHbdIbdJbdKbdLbdMbdNbdObdPbdQbdRbdSbdTbdUbdVbdWbdXbdYbdZ",
   "nITALIC SMALL DOTLESS IbiJ@120488nBOLD CAPITAL ALPHAbaBETAbaGAMMAbaDELTAbaEPSILONbaZETAbaETAb",
   "aTHETAbaIOTAbaKAPPAbaLAMDAbaMUbaNUbaXIbaOMICRONbaPIbaRHObaTHETA SYMBOLbaSIGMAbaTAUbaUPSILONba",
   "PHIbaCHIbaPSIbaOMEGAsNABLAsSMALL ALPHAyBETAyGAMMAyDELTAyEPSILONyZETAyETAyTHETAyIOTAyKAPPAyLAM",
   "DAyMUyNUyXIyOMICRONyPIyRHOyFINAL SIGMAySIGMAyTAUyUPSILONyPHIyCHIyPSIyOMEGAsPARTIAL DIFFERENTI",
   "ALsEPSILON SYMBOLsTHETA SYMBOLsKAPPA SYMBOLsPHI SYMBOLsRHO SYMBOLsPI SYMBOLnITALIC CAPITAL AL",
   "PHAbcBETAbcGAMMAbcDELTAbcEPSILONbcZETAbcETAbcTHETAbcIOTAbcKAPPAbcLAMDAbcMUbcNUbcXIbcOMICRONbc",
   "PIbcRHObcTHETA SYMBOLbcSIGMAbcTAUbcUPSILONbcPHIbcCHIbcPSIbcOMEGAuNABLAuSMALL ALPHAbaBETAbaGAM",
   "MAbaDELTAbaEPSILONbaZETAbaETAbaTHETAbaIOTAbaKAPPAbaLAMDAbaMUbaNUbaXIbaOMICRONbaPIbaRHObaFINAL",
   " SIGMAbaSIGMAbaTAUbaUPSILONbaPHIbaCHIbaPSIbaOMEGAuPARTIAL DIFFERENTIALuEPSILON SYMBOLuTHETA S",
   "YMBOLuKAPPA SYMBOLuPHI SYMBOLuRHO SYMBOLuPI SYMBOLnBOLD ITALIC CAPITAL ALPHAbhBETAbhGAMMAbhDE",
   "LTAbhEPSILONbhZETAbhETAbhTHETAbhIOTAbhKAPPAbhLAMDAbhMUbhNUbhXIbhOMICRONbhPIbhRHObhTHETA SYMBO",
   "LbhSIGMAbhTAUbhUPSILONbhPHIbhCHIbhPSIbhOMEGAzNABLAzSMALL ALPHAbfBETAbfGAMMAbfDELTAbfEPSILONbf",
   "ZETAbfETAbfTHETAbfIOTAbfKAPPAbfLAMDAbfMUbfNUbfXIbfOMICRONbfPIbfRHObfFINAL SIGMAbfSIGMAbfTAUbf",
   "UPSILONbfPHIbfCHIbfPSIbfOMEGAzPARTIAL DIFFERENTIALzEPSILON SYMBOLzTHETA SYMBOLzKAPPA SYMBOLzP",
   "HI SYMBOLzRHO SYMBOLzPI SYMBOLnSANS-SERIF BOLD CAPITAL ALPHAblBETAblGAMMAblDELTAblEPSILONblZE",
   "TAblETAblTHETAblIOTAblKAPPAblLAMDAblMUblNUblXIblOMICRONblPIblRHOblTHETA SYMBOLblSIGMAblTAUblU",
   "PSILONblPHIblCHIblPSIblOMEGAbdNABLAbdSMALL ALPHAbjBETAbjGAMMAbjDELTAbjEPSILONbjZETAbjETAbjTHE",
   "TAbjIOTAbjKAPPAbjLAMDAbjMUbjNUbjXIbjOMICRONbjPIbjRHObjFINAL SIGMAbjSIGMAbjTAUbjUPSILONbjPHIbj",
   "CHIbjPSIbjOMEGAbdPARTIAL DIFFERENTIALbdEPSILON SYMBOLbdTHETA SYMBOLbdKAPPA SYMBOLbdPHI SYMBOL",
   "bdRHO SYMBOLbdPI SYMBOLbdITALIC CAPITAL ALPHAbsBETAbsGAMMAbsDELTAbsEPSILONbsZETAbsETAbsTHETAb",
   "sIOTAbsKAPPAbsLAMDAbsMUbsNUbsXIbsOMICRONbsPIbsRHObsTHETA SYMBOLbsSIGMAbsTAUbsUPSILONbsPHIbsCH",
   "IbsPSIbsOMEGAbkNABLAbkSMALL ALPHAbqBETAbqGAMMAbqDELTAbqEPSILONbqZETAbqETAbqTHETAbqIOTAbqKAPPA",
   "bqLAMDAbqMUbqNUbqXIbqOMICRONbqPIbqRHObqFINAL SIGMAbqSIGMAbqTAUbqUPSILONbqPHIbqCHIbqPSIbqOMEGA",
   "bkPARTIAL DIFFERENTIALbkEPSILON SYMBOLbkTHETA SYMBOLbkKAPPA SYMBOLbkPHI SYMBOLbkRHO SYMBOLbkP",
   "I SYMBOLnBOLD CAPITAL DIGAMMAsSMALL DIGAMMA@120782sDIGIT ZEROyONEyTWOzHREEyFOURzIVEySIXzEVENy",
   "EIGHTyNINEnDOUBLE-STRUCK DIGIT ZERObhONEbhTWObiHREEbhFOURbiIVEbhSIXbiEVENbhEIGHTbhNINEnSANS-S",
   "ERIF DIGIT ZERObeONEbeTWObfHREEbeFOURbfIVEbeSIXbfEVENbeEIGHTbeNINEyBOLD DIGIT ZERObjONEbjTWOb",
   "kHREEbjFOURbkIVEbjSIXbkEVENbjEIGHTbjNINEnMONOSPACE DIGIT ZERObdONEbdTWObeHREEbdFOURbeIVEbdSIX",
   "beEVENbdEIGHTbdNINEaSIGNWRITING HAND-FIST INDEXrCIRCLE INDEXsUP INDEXrOVAL INDEXrHINGE INDEXr",
   "ANGLE INDEXrFIST INDEX BENTrCIRCLE INDEX BENTrFIST THUMB UNDER INDEX BENTwINDEX RAISED KNUCKL",
   "EbcCUPPEDbcHINGEDbi LOWrCIRCLE INDEX HINGErFIST INDEX MIDDLErCIRCLE INDEX MIDDLErFIST INDEX M",
   "IDDLE BENTbjRAISED KNUCKLESbjHINGEDbcUP MIDDLE HINGEDbcHINGED MIDDLE UPbcMIDDLE CONJOINEDbs I",
   "NDEX BENTbtMIDDLE BENTbtCUPPEDbtHINGEDbkROSSEDrCIRCLE INDEX MIDDLE CROSSEDrFIST MIDDLE BENT O",
   "VER INDEXwINDEX BENT OVER MIDDLEbcMIDDLE THUMBrCIRCLE INDEX MIDDLE THUMBrFIST INDEX MIDDLE ST",
   "RAIGHT THUMB BENTbjBENT THUMB STRAIGHTbjTHUMB BENTbjHINGED SPREAD THUMB SIDEbcUP MIDDLE HINGE",
   "D THUMB SIDEbzCONJOINEDbcHINGED MIDDLE UP THUMB SIDEbcMIDDLE UP SPREAD THUMB FORWARDbjTHUMB C",
   "UPPEDbqIRCLEDbpHOOKEDbqINGEDwTHUMB BETWEEN INDEX MIDDLE STRAIGHTwINDEX MIDDLE CONJOINED THUMB",
   " SIDEcd CONJOINEDceBENTwMIDDLE THUMB HOOKED INDEX UPwINDEX THUMB HOOKED MIDDLE UPbcMIDDLE CON",
   "JOINED HINGED THUMB SIDEbkROSSED THUMB SIDEbkONJOINED THUMB FORWARDbtCUPPED THUMB FORWARDwMID",
   "DLE THUMB CUPPED INDEX UPwINDEX THUMB CUPPED MIDDLE UPwMIDDLE THUMB CIRCLED INDEX UPbxHINGEDw",
   "INDEX THUMB ANGLED OUT MIDDLE UPbpIN MIDDLE UPbiCIRCLED MIDDLE UPbcMIDDLE THUMB CONJOINED HIN",
   "GEDbpANGLED OUTbuDwMIDDLE THUMB ANGLED OUT INDEX UPcaCROSSEDbqINDEX UPwINDEX THUMB HOOKED MID",
   "DLE HINGEDsLAT FOUR FINGERSbi BENTbjHINGEDbjCONJOINEDbs SPLITrCLAW FOUR FINGERS CONJOINEDrFIS",
   "T FOUR FINGERS CONJOINED BENTrHINGE FOUR FINGERS CONJOINEDrFLAT FIVE FINGERS SPREADwHEEL FIVE",
   " FINGERS SPREADwFIVE FINGERS SPREAD FOUR BENTwHEEL FIVE FINGERS SPREAD FOUR BENTwFIVE FINGERS",
   " SPREAD BENTwHEEL FIVE FINGERS SPREAD BENTwFIVE FINGERS SPREAD THUMB FORWARDrCUP FIVE FINGERS",
   " SPREADbo OPENrHINGE FIVE FINGERS SPREAD OPENrOVAL FIVE FINGERS SPREADrFLAT FIVE FINGERS SPRE",
   "AD HINGEDbw THUMB SIDEbxNO THUMBuTv BETWEEN PALM FACINGSwHEELwTHUMB SIDEwHEEL THUMB SIDEwTHUM",
   "B BENTbcFORWARDwSPLIT INDEX THUMB SIDEbcCENTREbi THUMB SIDEbt BENTbcLITTLErCLAWv THUMB SIDEwN",
   "O THUMBwTHUMB FORWARDrHOOK CURLICUEuKrCUP OPENtPu OPEN THUMB SIDEvTHUMB SIDEvOPEN NO THUMBvNO",
   " THUMBvOPEN THUMB FORWARDvTHUMB FORWARDtRLICUE OPENyEsIRCLErOVALv THUMB SIDEwNO THUMBwTHUMB F",
   "ORWARDrHINGE OPENbb THUMB FORWARDvEw SMALLxOPEN THUMB SIDExTHUMB SIDExOPEN NO THUMBxNO THUMBx",
   "THUMB SIDE TOUCHING INDEXbdBETWEEN MIDDLE RINGrANGLErFIST INDEX MIDDLE RINGrCIRCLE INDEX MIDD",
   "LE RINGrHINGE INDEX MIDDLE RINGrANGLE INDEX MIDDLE RINGrHINGE LITTLErFIST INDEX MIDDLE RING B",
   "ENTboCONJOINEDrHINGE INDEX MIDDLE RING CONJOINEDrFIST LITTLE DOWNbh RIPPLE STRAIGHTbpCURVEDbi",
   "OTHERS CIRCLEDbdUPwTHUMB UNDER LITTLE UPrCIRCLE LITTLE UPrOVAL LITTLE UPrANGLE LITTLE UPrFIST",
   " LITTLE RAISED KNUCKLEbdBENTbdTOUCHES THUMBbeHUMBrHINGE LITTLE THUMBrFIST LITTLE INDEX THUMBr",
   "HINGE LITTLE INDEX THUMBrANGLE LITTLE INDEX THUMB INDEX THUMB OUTcaBrFIST LITTLE INDEXrCIRCLE",
   " LITTLE INDEXrHINGE LITTLE INDEXrANGLE LITTLE INDEXrFIST INDEX MIDDLE LITTLErCIRCLE INDEX MID",
   "DLE LITTLErHINGE INDEX MIDDLE LITTLExRINGrANGLE INDEX MIDDLE LITTLErFIST INDEX MIDDLE CROSS L",
   "ITTLErCIRCLE INDEX MIDDLE CROSS LITTLErFIST RING DOWNrHINGE RING DOWN INDEX THUMB HOOK MIDDLE",
   "rANGLE RING DOWN MIDDLE THUMB INDEX CROSSrFIST RING UPbbRAISED KNUCKLEbbLITTLErCIRCLE RING LI",
   "TTLErOVAL RING LITTLErANGLE RING LITTLErFIST RING MIDDLEbh CONJOINEDbiRAISED KNUCKLESbbINDEXb",
   "bTHUMBrHOOK RING THUMBrFIST INDEX RING LITTLErCIRCLE INDEX RING LITTLEsURLICUE INDEX RING LIT",
   "TLE ONrHOOK INDEX RING LITTLE OUTboINboUNDERrCUP INDEX RING LITTLErHINGE INDEX RING LITTLErAN",
   "GLE INDEX RING LITTLE OUTbnErFIST MIDDLE DOWNrHINGE MIDDLErFIST MIDDLE UPrCIRCLE MIDDLE UPrFI",
   "ST MIDDLE RAISED KNUCKLEbdUP THUMB SIDErHOOK MIDDLE THUMBrFIST MIDDLE THUMB LITTLEbdLITTLEbdR",
   "ING LITTLErCIRCLE MIDDLE RING LITTLEsURLICUE MIDDLE RING LITTLE ONtP MIDDLE RING LITTLErHINGE",
   " MIDDLE RING LITTLErANGLE MIDDLE RING LITTLE OUTbqINboErCIRCLE MIDDLE RING LITTLE BENTsLAW MI",
   "DDLE RING LITTLE CONJOINEDby SIDErHOOK MIDDLE RING LITTLE CONJOINED OUTbzINbxDsINGE INDEX HIN",
   "GEDrFIST INDEX THUMB SIDErHINGE INDEX THUMB SIDErFIST INDEX THUMB SIDE THUMB DIAGONALbtCONJOI",
   "NEDbtBENTbnINDEX BENTbnBOTH BENTbnINDEX HINGEbiFORWARD INDEX STRAIGHTbwBENTbiHOOKbiCURLICUEbl",
   "VE THUMB INSIDErCLAW INDEX THUMB CURVE THUMB INSIDErFIST INDEX THUMB CURVE THUMB UNDERbjIRCLE",
   "rCUP INDEX THUMBbg OPENrHINGE INDEX THUMB OPENbjLARGEbhBbi SMALLrANGLE INDEX THUMB OUTbjINbhB",
   "rFIST THUMBbb HEELbcSIDE DIAGONALbhCONJOINEDbhBENTbcFORWARDbcBETWEEN INDEX MIDDLEbkMIDDLE RIN",
   "GbkRING LITTLEbcUNDER TWO FINGERSbcOVER TWO FINGERSbcUNDER THREE FINGERSbiFOUR FINGERSbcOVER ",
   "FOUR RAISED KNUCKLESuTv HEELmTOUCH SINGLEsMULTIPLEsBETWEENmGRASP SINGLEsMULTIPLEsBETWEENmSTRI",
   "KE SINGLEtMULTIPLEtBETWEENmBRUSH SINGLEsMULTIPLEsBETWEENmRUB SINGLEqMULTIPLEqBETWEENmSURFACE ",
   "SYMBOLSuBETWEENnQUEEZE LARGE SINGLEuSMALL SINGLEuLARGE MULTIPLEuSMALL MULTIPLEvEQUENTIALmFLIC",
   "K LARGE SINGLEsSMALL SINGLEsLARGE MULTIPLEsSMALL MULTIPLEtEQUENTIALmSQUEEZE FLICK ALTERNATING",
   "mMOVEMENT-HINGE UP DOWN LARGEbjSMALLbeSEQUENTIALbbDOWN SEQUENTIALbbUP DOWN ALTERNATING LARGEb",
   "vSMALLbbSIDE TO SIDE SCISSORSvWALLPLANE FINGER CONTACTvFLOORPLANE FINGER CONTACTvWALLPLANE SI",
   "NGLE STRAIGHT SMALLbvMEDIUMbvLARGEcaSTbmWRIST FLEXbfDOUBLE STRAIGHTbmWRIST FLEXbmALTERNATINGb",
   "x WRIST FLEXbfCROSSbfTRIPLE STRAIGHT MOVEMENTbmWRIST FLEXbmALTERNATINGbx WRIST FLEXbfBEND SMA",
   "LLbkMEDIUMbkLARGEbfCORNER SMALLbmMEDIUMbmLARGEbmROTATIONbgHECK SMALLblMEDIUMblLARGEbfBOX SMAL",
   "LbjMEDIUMbjLARGEbfZIGZAG SMALLbmMEDIUMbmLARGEbfPEAKS SMALLblMEDIUMblLARGEmTRAVEL-WALLPLANE RO",
   "TATION-WALLPLANE SINGLEbwDOUBLEbwALTERNATINGbmFLOORPLANE SINGLEbxDOUBLEbxALTERNATINGbdSHAKING",
   "bdARM SPIRAL SINGLEboDOUBLEboTRIPLEmMOVEMENT-DIAGONAL AWAY SMALLbjMEDIUMbjLARGEboSTbeTOWARDS ",
   "SMALLbmMEDIUMbmLARGEbrSTbeBETWEEN AWAY SMALLbrMEDIUMbrLARGEbwSTbmTOWARDS SMALLbuMEDIUMbuLARGE",
   "bzSTvFLOORPLANE SINGLE STRAIGHT SMALLbwMEDIUMbwLARGEcbSTbnWRIST FLEXbgDOUBLE STRAIGHTbnWRIST ",
   "FLEXbnALTERNATINGby WRIST FLEXbgCROSSbgTRIPLE STRAIGHT MOVEMENTbnWRIST FLEXbnALTERNATING MOVE",
   "MENTbzWRIST FLEXbgBENDbgCORNER SMALLbnMEDIUMbnLARGEbhHECKbgBOX SMALLbkMEDIUMbkLARGEbgZIGZAG S",
   "MALLbnMEDIUMbnLARGEbgPEAKS SMALLbmMEDIUMbmLARGEmTRAVEL-FLOORPLANE ROTATION-FLOORPLANE SINGLEb",
   "yDOUBLEbyALTERNATINGbnWALLPLANE SINGLEbxDOUBLEbxALTERNATINGbeSHAKINGmMOVEMENT-WALLPLANE CURVE",
   " QUARTER SMALLbtMEDIUMbtLARGEbySTblHALF-CIRCLE SMALLbxMEDIUMbxLARGEccSTblTHREE-QUARTER CIRCLE",
   " SMALLcgMEDIUMbfHUMP SMALLbkMEDIUMbkLARGEbfLOOP SMALLbkMEDIUMbkLARGEbkSMALL DOUBLEbfWAVE CURV",
   "E DOUBLE SMALLbxMEDIUMbxLARGEbqTRIPLE SMALLbxMEDIUMbxLARGEbfCURVE THEN STRAIGHTbkD CROSS SMAL",
   "LbsMEDIUMmROTATION-WALLPLANE SINGLEbfDOUBLEbfALTERNATEmMOVEMENT-WALLPLANE SHAKINGbfCURVE HITT",
   "ING FRONT WALLbfHUMP HITTING FRONT WALLbfLOOP HITTING FRONT WALLbfWAVE HITTING FRONT WALLmROT",
   "ATION-WALLPLANE SINGLE HITTING FRONT WALLbfDOUBLE HITTING FRONT WALLbfALTERNATING HITTING FRO",
   "NT WALLmMOVEMENT-WALLPLANE CURVE HITTING CHESTbfHUMP HITTING CHESTbfLOOP HITTING CHESTbfWAVE ",
   "HITTING CHESTmROTATION-WALLPLANE SINGLE HITTING CHESTbfDOUBLE HITTING CHESTbfALTERNATING HITT",
   "ING CHESTmMOVEMENT-WALLPLANE WAVE DIAGONAL PATH SMALLbyMEDIUMbyLARGEvFLOORPLANE CURVE HITTING",
   " CEILING SMALLccLARGEbgHUMP HITTING CEILING SMALL DOUBLEcbLARGE DOUBLEcbSMALL TRIPLEcbLARGE T",
   "RIPLEbgLOOP HITTING CEILING SMALL SINGLEcbLARGE SINGLEcbSMALL DOUBLEcbLARGE DOUBLEbgWAVE HITT",
   "ING CEILING SMALLcbLARGEmROTATION-FLOORPLANE SINGLE HITTING CEILINGbgDOUBLE HITTING CEILINGbg",
   "ALTERNATING HITTING CEILINGmMOVEMENT-FLOORPLANE CURVE HITTING FLOOR SMALLcaLARGEbgHUMP HITTIN",
   "G FLOOR SMALL DOUBLEbzLARGE DOUBLEbzTRIPLE SMALL TRIPLEcgLARGE TRIPLEbgLOOP HITTING FLOOR SMA",
   "LL SINGLEbzLARGE SINGLEbzSMALL DOUBLEbzLARGE DOUBLEbgWAVE HITTING FLOOR SMALLbzLARGEmROTATION",
   "-FLOORPLANE SINGLE HITTING FLOORbgDOUBLE HITTING FLOORbgALTERNATING HITTING FLOORmMOVEMENT-FL",
   "OORPLANE CURVE SMALLbmMEDIUMbmLARGEbrSTbmCOMBINEDbgHUMP SMALLbgLOOP SMALLbgWAVE SNAKEbmMALLbl",
   "LARGEmROTATION-FLOORPLANE SINGLEbgDOUBLEbgALTERNATINGmMOVEMENT-FLOORPLANE SHAKING PARALLELvWA",
   "LLPLANE ARM CIRCLE SMALL SINGLEbqMEDIUM SINGLEbqSMALL DOUBLEbqMEDIUM DOUBLEvFLOORPLANE ARM CI",
   "RCLE HITTING WALL SMALL SINGLEceMEDIUM SINGLEceLARGE SINGLEceSMALL DOUBLEceMEDIUM DOUBLEceLAR",
   "GE DOUBLEvWALLPLANE WRIST CIRCLE FRONT SINGLEbyDOUBLEvFLOORPLANE WRIST CIRCLE HITTING WALL SI",
   "NGLEcgDOUBLEvWALLPLANE FINGER CIRCLES SINGLEbuDOUBLEvFLOORPLANE FINGER CIRCLES HITTING WALL S",
   "INGLEciDOUBLEmDYNAMIC ARROWHEAD SMALLbeLARGEuFASTuSLOWuTENSEuRELAXEDuSIMULTANEOUSbg ALTERNATI",
   "NGuEVERY OTHER TIMEuGRADUALmHEADq RIMrMOVEMENT-WALLPLANE STRAIGHTbkTILTbaFLOORPLANE STRAIGHTb",
   "aWALLPLANE CURVEbaFLOORPLANE CURVEz CIRCLEmFACE DIRECTION POSITION NOSE FORWARD TILTINGbpUP O",
   "R DOWNbz TILTINGmEYEBROWS STRAIGHT UPbeNEUTRALbeDOWNmDREAMY EYEBROWS NEUTRAL DOWNbcDOWN NEUTR",
   "ALbcUP NEUTRALbcNEUTRAL UPmFOREHEAD NEUTRALvCONTACTvWRINKLEDmEYES OPENrSQUEEZEDrCLOSEDp BLINK",
   " SINGLEwMULTIPLEpS HALF OPENrWIDE OPENrHALF CLOSEDrWIDENING MOVEMENTp WINKpLASHES UPwDOWNwFLU",
   "TTERINGpGAZE-WALLPLANE STRAIGHTbm DOUBLEbnALTERNATINGuFLOORPLANE STRAIGHTbn DOUBLEboALTERNATI",
   "NGuWALLPLANE CURVEDuFLOORPLANE CURVEDuWALLPLANE CIRCLINGmCHEEKS PUFFEDtNEUTRALtSUCKEDmTENSE C",
   "HEEKS HIGHzMIDDLEzLOWmEARSmNOSE NEUTRALrCONTACTrWRINKLESsIGGLESmAIR BLOWING OUTqSUCKING INqBL",
   "OW SMALL ROTATIONSqSUCK SMALL ROTATIONSmBREATH INHALEtEXHALEmMOUTH CLOSED NEUTRALzFORWARDzCON",
   "TACTsSMILEx WRINKLEDyOPENsFROWNx WRINKLEDyOPENsOPEN CIRCLExFORWARDxWRINKLEDxOVALbb WRINKLEDbc",
   "YAWNxRECTANGLEbg WRINKLEDbhYAWNsKISSw FORWARDxWRINKLEDsTENSEx FORWARDySUCKEDmLIPS PRESSED TOG",
   "ETHERp LOWER OVER UPPERqUPPER OVER LOWERmMOUTH CORNERSsWRINKLES SINGLEbbDOUBLEmTONGUE STICKIN",
   "G OUT FARtLICKING LIPStTIP BETWEEN LIPSxTOUCHING INSIDE MOUTHtINSIDE MOUTH RELAXEDtMOVES AGAI",
   "NST CHEEKtCENTRE STICKING OUTbaINSIDE MOUTHnEETHr MOVEMENTsON TONGUEbb MOVEMENTvLIPSz MOVEMEN",
   "TsBITE LIPSmMOVEMENT-WALLPLANE JAWvFLOORPLANE JAWmNECKmHAIRmEXCITEMENTmSHOULDER HIP SPINEzPOS",
   "ITIONSmWALLPLANE SHOULDER HIP MOVEmFLOORPLANE SHOULDER HIP MOVEmSHOULDER TILTING FROM WAISTmT",
   "ORSO-WALLPLANE STRAIGHT STRETCHbcCURVED BENDsFLOORPLANE TWISTINGmUPPER BODY TILTING FROM HIP ",
   "JOINTSmLIMB COMBINATIONrLENGTH-1y2y3y4y5y6y7mFINGERmLOCATION-WALLPLANE SPACEvFLOORPLANE SPACE",
   "u HEIGHTvWIDTHvDEPTHvHEAD NECKvTORSOvLIMBS DIGITSmCOMMAmFULL STOPmSEMICOLONmCOLONmPARENTHESIS",
   "@121499mFILL MODIFIER-2ba3ba4ba5ba6@121505mROTATION MODIFIER-2be3be4be5be6be7be8be9be10bf1bf2",
   "bf3bf4bf5bf6@122624aLATIN SMALL LETTER FENG DIGRAPH WITH TRILLtREVERSED SCRIPT GgLETTER SMALL",
   " CAPITAL TURNED GgSMALL LETTER REVERSED KgLETTER SMALL CAPITAL L WITH BELTgSMALL LETTER LEZH ",
   "WITH RETROFLEX HOOKtTURNED Y WITH BELTtREVERSED ENGtTURNED R WITH LONG LEG AND RETROFLEX HOOK",
   "u WITH HOOK AND RETROFLEX HOOKgLETTER RETROFLEX CLICK WITH RETROFLEX HOOKgSMALL LETTER ESH WI",
   "TH DOUBLE BARbm AND CURLtTURNED T WITH CURLgLETTER INVERTED GLOTTAL STOP WITH CURLnSTRETCHED ",
   "C WITH CURLoMALL CAPITAL TURNED KgSMALL LETTER L WITH FISHHOOKtDEZH DIGRAPH WITH PALATAL HOOK",
   "tL WITH BELT AND PALATAL HOOKtENG WITH PALATAL HOOKtTURNED R WITH PALATAL HOOKtR WITH FISHHOO",
   "K AND PALATAL HOOKtTESH DIGRAPH WITH PALATAL HOOKtEZH WITH PALATAL HOOKtDEZH DIGRAPH WITH RET",
   "ROFLEX HOOKtI WITH STROKE AND RETROFLEX HOOKtO WITH RETROFLEX HOOKtTESH DIGRAPH WITH RETROFLE",
   "X HOOKtC WITH RETROFLEX HOOKtS WITH CURL@122880aCOMBINING GLAGOLITIC LETTER AZUbcBUKYbcVEDEbc",
   "GLAGOLIbcDOBRObcYESTUbcZHIVETE@122888bdEMLJAbcIZHEbdNITIAL IZHEbcIbcDJERVIbcKAKObcLJUDIJEbcMY",
   "SLITEbcNASHIbcONUbcPOKOJIbcRITSIbcSLOVObcTVRIDObcUKUbcFRITUbcHERU@122907bcSHTAbcTSIbcCHRIVIbc",
   "SHAbcYERUbfIbdATI@122915bdUbcSMALL YUS@122918bcYObcIOTATED SMALL YUSbcBIG YUSbcIOTATED BIG YU",
   "SbcFITA@123136aNYIAKENG PUACHUE HMONG LETTER MAbeTSAbeNTAbeTAbeHAbeNAbeXAbeNKAbeCAbeLAbeSAbeZ",
   "AbeNCAbfTSAbeKAbeDAbeNYAbfRAbeVAbeNTXAbeTXAbeFAbeRAbeQAbeYAbeNQAbePAbeXYAbeNPAbeDLAbeNPLAbeHA",
   "HbeMLAbePLAbeGAbeRRAbeAbfAbeIbeUbeObfObeEbfEbeW@123184xTONE-BbcMbcJbcVbcSbcGbcDxSIGN FOR PERS",
   "ONbgTHINGbgLOCATIONbgANIMALbgINVERTEBRATEbcXW XWyYLLABLE LENGTHENER@123200xDIGIT ZERObdONEbdT",
   "WObeHREEbdFOURbeIVEbdSIXbeEVENbdEIGHTbdNINE@123214xLOGOGRAM NYAJxCIRCLED CA@123536aTOTO LETTE",
   "R PAmBAmTAmDAmKAmGAmMAmNAnGAmSAmCHAmYAmWAmJAmHAmRAmLAmImBREATHY ImIUmBREATHY IUmUmEmBREATHY E",
   "mEOmBREATHY EOmOmAEmBREATHY AEmAfSIGN RISING TONE@123584aWANCHO LETTER AAoAoBAoCAoDAoGAoYAoPH",
   "AoLAoNAoPAoTApHAoFAoSApHAoJAoZAoWAoVAoKAoOoAUoRAoMAoKHAoHAoEoIoNGAoUoLLHAoTSApRAoONGoAANGpNGo",
   "INGoONoENoAANoNYAoUENoYIHhTONE TUPpNImKOIpNIhDIGIT ZEROnONEnTWOoHREEnFOURoIVEnSIXoEVENnEIGHTn",
   "NINE@123647hNGUN SIGN@124896aETHIOPIC SYLLABLE HHYAvUvIvAAvEEvEvO@124904sGURAGE HHWAsHHWIvEEv",
   "E@124909sGURAGE MWIbbEE@124912zQWIbbEEbbEzBWIbbEEzKWIbbEEbbEzGWIbbEEbbEzFWIbbEEzPWIbbEE@12492",
   "8aMENDE KIKAKUI SYLLABLE M001 KIba2 KAba3 KUz65 KEEz95 KEz76 KOOz48 KOy179 KUAy004 WIba5 WAba",
   "6 WUy126 WEEz18 WEba4 WOOy045 WOy194 WUIz43 WEIy061 WVIz49 WVAy139 WVEy007 MINba8 MANba9 MUNz",
   "59 MENz94 MONy154 MUANz89 MUENy010 BIba1 BAba2 BUy150 BEEy097 BEy103 BOOz38 BOy013 Iba4 Aba5 ",
   "Uy163 EEz00 Ez65 OOz47 Oz37 EIba1 INba5 INz95 ANz78 ENy019 SIz20 SAba1 SUy162 SEEz16 SEz36 SO",
   "Oy079 SOy196 SIAy025 LIba6 LAba7 LUz84 LEEz73 LEz54 LOOy153 LOz10 LONG LEy016 DIba7 DAba8 DUz",
   "89 DEEy180 DOOba1 DOy022 TIba3 TAba4 TUz91 TEEz55 TEy104 TOOy069 TOz28 JIba9 JAz30 JUy157 JEE",
   "z13 JEz60 JOOy063 JOy175 LONG JOy031 YIba2 YAba3 YUy109 YEEy080 YEy141 YOOz21 YOy034 FIba5 FA",
   "ba6 FUz78 FEEba5 FEy133 FOOy088 FOy197 FUAz01 FANy037 NINba8 NANba9 NUNy117 NENz69 NONz76 HIy",
   "041 HAy186 HUy040 HEEz96 HEz42 HOOy140 HOy083 HEEIy128 HOOUy053 HINy130 HANy087 HUNz52 HENy19",
   "3 HONy046 HUANz90 NGGIz43 NGGAz82 NGGUy115 NGGEEz46 NGGEz56 NGGOOz20 NGGOz59 NGGAAz27 NGGUAy0",
   "86 LONG NGGEy106 LONG NGGOOz83 LONG NGGOz55 GIz11 GAz68 GUz90 GEEz66 GUEIba7 GUANz84 NGENy057",
   " NGONy177 NGUANy068 PIz99 PAz50 PUz81 PEEz51 PEy102 POOy066 POy145 MBIy062 MBAy122 MBUy047 MB",
   "EEy188 MBEEy072 MBEy172 MBOOba4 MBOz87 MBUUz61 LONG MBEz05 LONG MBOOz42 LONG MBOz32 KPIy092 K",
   "PAz74 KPUz44 KPEEy108 KPEz12 KPOOz58 KPOz24 GBIy056 GBAy148 GBUy093 GBEEy107 GBEy071 GBOOba0 ",
   "GBOy171 RAz23 NDIba9 NDAba5 NDUz91 NDEEz19 NDEy067 NDOOba4 NDOy152 NJAz92 NJUz49 NJEEz34 NJOO",
   "z82 VIba5 VAz51 VUz73 VEEy085 VEy144 VOOy077 VOy164 NYINy058 NYANy170 NYUNy098 NYENz60 NYON@1",
   "25127oDIGIT ONEuTWOvHREEuFOURvIVEuSIXvEVENuEIGHTuNINEoCOMBINING NUMBER TEENSbhNSbfHUNDREDSbfT",
   "HOUSANDSbgEN THOUSANDSbfHUNDRED THOUSANDSbfMILLIONS@125184aADLAM CAPITAL LETTER ALIFvDAALIvLA",
   "AMvMIIMvBAvSINNYIIYHEvPEvBHEvRAvEvFAvIvOvDHAvYHEvWAWvNUNvKAFvYAvUvJIIMvCHIvHAvQAAFvGAvNYAvTUv",
   "NHAvVAvKHAvGBEvZALvKPOvSHAgSMALL LETTER ALIFtDAALItLAAMtMIIMtBAtSINNYIIYHEtPEtBHEtRAtEtFAtItO",
   "tDHAtYHEtWAWtNUNtKAFtYAtUtJIIMtCHItHAtQAAFtGAtNYAtTUtNHAtVAtKHAtGBEtZALtKPOtSHAgALIF LENGTHEN",
   "ERgVOWEL LENGTHENERgGEMINATION MARKgHAMZAgCONSONANT MODIFIERgGEMINATE CONSONANT MODIFIERgNUKT",
   "AhASALIZATION MARK@125264gDIGIT ZEROmONEmTWOnHREEmFOURnIVEmSIXnEVENmEIGHTmNINE@125278gINITIAL",
   " EXCLAMATION MARKoQUESTION MARK@126065aINDIC SIYAQ NUMBER ONEtTWOuHREEtFOURuIVEtSIXuEVENtEIGH",
   "TtNINEtTENuWENTYuHIRTYtFORTYuIFTYtSIXTYuEVENTYtEIGHTYtNINETYtONE HUNDREDtTWO HUNDREDuHREE HUN",
   "DREDtFOUR HUNDREDuIVE HUNDREDtSIX HUNDREDuEVEN HUNDREDtEIGHT HUNDREDtNINE HUNDREDtONE THOUSAN",
   "DtTWO THOUSANDuHREE THOUSANDtFOUR THOUSANDuIVE THOUSANDtSIX THOUSANDuEVEN THOUSANDtEIGHT THOU",
   "SANDtNINE THOUSANDtTEN THOUSANDuWENTY THOUSANDuHIRTY THOUSANDtFORTY THOUSANDuIFTY THOUSANDtSI",
   "XTY THOUSANDuEVENTY THOUSANDtEIGHTY THOUSANDtNINETY THOUSANDtLAKHxANmLAKH MARKmNUMBER KARORyA",
   "NtPREFIXED ONEbcTWObdHREEbcFOURbdIVEbcSIXbdEVENbcEIGHTbcNINEmPLACEHOLDERmFRACTION ONE QUARTER",
   "zHALFvTHREE QUARTERSmRUPEE MARKmNUMBER ALTERNATE ONEbdTWObeEN THOUSANDmALTERNATE LAKH MARK@12",
   "6209aOTTOMAN SIYAQ NUMBER ONEvTWOwHREEvFOURwIVEvSIXwEVENvEIGHTvNINEvTENwWENTYwHIRTYvFORTYwIFT",
   "YvSIXTYwEVENTYvEIGHTYvNINETYvONE HUNDREDvTWO HUNDREDwHREE HUNDREDvFOUR HUNDREDwIVE HUNDREDvSI",
   "X HUNDREDwEVEN HUNDREDvEIGHT HUNDREDvNINE HUNDREDvONE THOUSANDvTWO THOUSANDwHREE THOUSANDvFOU",
   "R THOUSANDwIVE THOUSANDvSIX THOUSANDwEVEN THOUSANDvEIGHT THOUSANDvNINE THOUSANDvTEN THOUSANDw",
   "WENTY THOUSANDwHIRTY THOUSANDvFORTY THOUSANDwIFTY THOUSANDvSIXTY THOUSANDwEVENTY THOUSANDvEIG",
   "HTY THOUSANDvNINETY THOUSANDoMARRATANoALTERNATE NUMBER TWObgHREEbfFOURbgIVEbfSIXbgEVENbfEIGHT",
   "bfNINEbfTENbfFOUR HUNDREDbfSIX HUNDREDbfTWO THOUSANDbgEN THOUSANDoFRACTION ONE HALFbbSIXTH@12",
   "6464aARABIC MATHEMATICAL ALEFuBEHuJEEMuDAL@126469uWAWuZAINuHAHuTAHuYEHuKAFuLAMuMEEMuNOONuSEEN",
   "uAINuFEHuSADuQAFuREHuSHEENuTEHvHEHuKHAHuTHALuDADuZAHuGHAINuDOTLESS BEHbcNOONbcFEHbcQAF@126497",
   "uINITIAL BEHbcJEEM@126500bcHEH@126503bdAH@126505bcYEHbcKAFbcLAMbcMEEMbcNOONbcSEENbcAINbcFEHbc",
   "SADbcQAF@126516bcSHEENbcTEHbdHEHbcKHAH@126521bcDAD@126523bcGHAIN@126530uTAILED JEEM@126535bbH",
   "AH@126537bbYEH@126539bbLAM@126541bbNOONbbSEENbbAIN@126545bbSADbbQAF@126548bbSHEEN@126551bbKHA",
   "H@126553bbDAD@126555bbGHAIN@126557bbDOTLESS NOON@126559bjQAF@126561uSTRETCHED BEHbeJEEM@12656",
   "4beHEH@126567bfAHbeTAHbeYEHbeKAF@126572beMEEMbeNOONbeSEENbeAINbeFEHbeSADbeQAF@126580beSHEENbe",
   "TEHbfHEHbeKHAH@126585beDADbeZAHbeGHAINbeDOTLESS BEH@126590bmFEH@126592uLOOPED ALEFbbBEHbbJEEM",
   "bbDALbbHEHbbWAWbbZAINbbHAHbbTAHbbYEH@126603bbLAMbbMEEMbbNOONbbSEENbbAINbbFEHbbSADbbQAFbbREHbb",
   "SHEENbbTEHbcHEHbbKHAHbbTHALbbDADbbZAHbbGHAIN@126625uDOUBLE-STRUCK BEHbiJEEMbiDAL@126629biWAWb",
   "iZAINbiHAHbiTAHbiYEH@126635biLAMbiMEEMbiNOONbiSEENbiAINbiFEHbiSADbiQAFbiREHbiSHEENbiTEHbjHEHb",
   "iKHAHbiTHALbiDADbiZAHbiGHAIN@126704uOPERATOR MEEM WITH HAH WITH TATWEELbdHAH WITH DAL@126976a",
   "MAHJONG TILE EAST WINDnSOUTH WINDnWEST WINDnNORTH WINDnRED DRAGONnGREEN DRAGONnWHITE DRAGONnO",
   "NE OF CHARACTERSnTWO OF CHARACTERSoHREE OF CHARACTERSnFOUR OF CHARACTERSoIVE OF CHARACTERSnSI",
   "X OF CHARACTERSoEVEN OF CHARACTERSnEIGHT OF CHARACTERSnNINE OF CHARACTERSnONE OF BAMBOOSnTWO ",
   "OF BAMBOOSoHREE OF BAMBOOSnFOUR OF BAMBOOSoIVE OF BAMBOOSnSIX OF BAMBOOSoEVEN OF BAMBOOSnEIGH",
   "T OF BAMBOOSnNINE OF BAMBOOSnONE OF CIRCLESnTWO OF CIRCLESoHREE OF CIRCLESnFOUR OF CIRCLESoIV",
   "E OF CIRCLESnSIX OF CIRCLESoEVEN OF CIRCLESnEIGHT OF CIRCLESnNINE OF CIRCLESnPLUMnORCHIDnBAMB",
   "OOnCHRYSANTHEMUMnSPRINGoUMMERnAUTUMNnWINTERnJOKERnBACK@127024aDOMINO TILE HORIZONTAL BACKw-00",
   "-00bb1bb2bb3bb4bb5bb6y1-00bb1bb2bb3bb4bb5bb6y2-00bb1bb2bb3bb4bb5bb6y3-00bb1bb2bb3bb4bb5bb6y4-",
   "00bb1bb2bb3bb4bb5bb6y5-00bb1bb2bb3bb4bb5bb6y6-00bb1bb2bb3bb4bb5bb6mVERTICAL BACKu-00-00z1z2z3",
   "z4z5z6w1-00z1z2z3z4z5z6w2-00z1z2z3z4z5z6w3-00z1z2z3z4z5z6w4-00z1z2z3z4z5z6w5-00z1z2z3z4z5z6w6",
   "-00z1z2z3z4z5z6@127136aPLAYING CARD BACKnACE OF SPADESnTWO OF SPADESoHREE OF SPADESnFOUR OF S",
   "PADESoIVE OF SPADESnSIX OF SPADESoEVEN OF SPADESnEIGHT OF SPADESnNINE OF SPADESnTEN OF SPADES",
   "nJACK OF SPADESnKNIGHT OF SPADESnQUEEN OF SPADESnKING OF SPADES@127153nACE OF HEARTSnTWO OF H",
   "EARTSoHREE OF HEARTSnFOUR OF HEARTSoIVE OF HEARTSnSIX OF HEARTSoEVEN OF HEARTSnEIGHT OF HEART",
   "SnNINE OF HEARTSnTEN OF HEARTSnJACK OF HEARTSnKNIGHT OF HEARTSnQUEEN OF HEARTSnKING OF HEARTS",
   "nRED JOKER@127169nACE OF DIAMONDSnTWO OF DIAMONDSoHREE OF DIAMONDSnFOUR OF DIAMONDSoIVE OF DI",
   "AMONDSnSIX OF DIAMONDSoEVEN OF DIAMONDSnEIGHT OF DIAMONDSnNINE OF DIAMONDSnTEN OF DIAMONDSnJA",
   "CK OF DIAMONDSnKNIGHT OF DIAMONDSnQUEEN OF DIAMONDSnKING OF DIAMONDSnBLACK JOKER@127185nACE O",
   "F CLUBSnTWO OF CLUBSoHREE OF CLUBSnFOUR OF CLUBSoIVE OF CLUBSnSIX OF CLUBSoEVEN OF CLUBSnEIGH",
   "T OF CLUBSnNINE OF CLUBSnTEN OF CLUBSnJACK OF CLUBSnKNIGHT OF CLUBSnQUEEN OF CLUBSnKING OF CL",
   "UBSnWHITE JOKERnFOOLnTRUMP-1t2t3t4t5t6t7t8t9t10u1u2u3u4u5u6u7u8u9t20u1@127232aDIGIT ZERO FULL",
   " STOPlCOMMAgONE COMMAgTWO COMMAhHREE COMMAgFOUR COMMAhIVE COMMAgSIX COMMAhEVEN COMMAgEIGHT CO",
   "MMAgNINE COMMAcNGBAT CIRCLED SANS-SERIF DIGIT ZEROiNEGATIVE CIRCLED SANS-SERIF DIGIT ZEROaCIR",
   "CLED ZERO WITH SLASHiANTICLOCKWISE ARROWiDOLLAR SIGN WITH OVERLAID BACKSLASHaPARENTHESIZED LA",
   "TIN CAPITAL LETTER AbjBbjCbjDbjEbjFbjGbjHbjIbjJbjKbjLbjMbjNbjObjPbjQbjRbjSbjTbjUbjVbjWbjXbjYb",
   "jZaTORTOISE SHELL BRACKETED LATIN CAPITAL LETTER SaCIRCLED ITALIC LATIN CAPITAL LETTER CbkRiC",
   "DiWZbOPYLEFT SYMBOLaSQUARED LATIN CAPITAL LETTER AbdBbdCbdDbdEbdFbdGbdHbdIbdJbdKbdLbdMbdNbdOb",
   "dPbdQbdRbdSbdTbdUbdVbdWbdXbdYbdZiHViMViSDjSiPPViWCaNEGATIVE CIRCLED LATIN CAPITAL LETTER AbmB",
   "bmCbmDbmEbmFbmGbmHbmIbmJbmKbmLbmMbmNbmObmPbmQbmRbmSbmTbmUbmVbmWbmXbmYbmZaRAISED MC SIGNiD SIG",
   "NiR SIGNaCIRCLED CCj WITH OVERLAID BACKSLASHiHUMAN FIGUREaNEGATIVE SQUARED LATIN CAPITAL LETT",
   "ER AbmBbmCbmDbmEbmFbmGbmHbmIbmJbmKbmLbmMbmNbmObmPbmQbmRbmSbmTbmUbmVbmWbmXbmYbmZaCROSSED NEGAT",
   "IVE SQUARED LATIN CAPITAL LETTER PaNEGATIVE SQUARED ICrPArSArABrWCaSQUARE DJgD CLjOOLiFREEiID",
   "iNEWjGiOKiSOSiUP WITH EXCLAMATION MARKiVSiTHREE DiSECOND SCREENiTWO KiFOUR KiEIGHT KiFIVE POI",
   "NT ONEiSEVEN POINT ONEiTWENTY-TWO POINT TWOiSIXTY PiONE HUNDRED TWENTY PiLATIN SMALL LETTER D",
   "iHCjDRjI-RESiLOSSLESSiSHViUHDiVODaMASK WORK SYMBOL@127462aREGIONAL INDICATOR SYMBOL LETTER Ab",
   "hBbhCbhDbhEbhFbhGbhHbhIbhJbhKbhLbhMbhNbhObhPbhQbhRbhSbhTbhUbhVbhWbhXbhYbhZaSQUARE HIRAGANA HO",
   "KAgD KATAKANA KOKOrSA@127504iCJK UNIFIED IDEOGRAPH-624Bbe5B57bf3CCiKATAKANA DEiCJK UNIFIED ID",
   "EOGRAPH-4E8Cbe591Abe89E3be5929be4EA4be6620be7121be6599be524DbfF8Cbf18Dbe65B0be521Dbe7D42bf51F",
   "be8CA9be58F0bf439be6F14bf295bf355be4E00bh9be904Abe5DE6be4E2Dbe53F3be6307be8D70be6253be7981bfA",
   "7Abe5408be6E80bf709bh8be7533be5272bf5B6be914D@127552aTORTOISE SHELL BRACKETED CJK UNIFIED IDE",
   "OGRAPH-672Cbv4E09bx8Cbv5B89bv70B9bv6253bv76D7bv52DDbv6557@127568aCIRCLED IDEOGRAPH ADVANTAGEt",
   "CCEPT@127584aROUNDED SYMBOL FOR FUtLUtSHOUtXItSHUANGXItCAI@127744aCYCLONEaFOGGYaCLOSED UMBREL",
   "LAaNIGHT WITH STARSaSUNRISE OVER MOUNTAINSgEaCITYSCAPE AT DUSKaSUNSET OVER BUILDINGSaRAINBOWa",
   "BRIDGE AT NIGHTaWATER WAVEaVOLCANOaMILKY WAYaEARTH GLOBE EUROPE-AFRICAmAMERICASnSIA-AUSTRALIA",
   "aGLOBE WITH MERIDIANSaNEW MOON SYMBOLaWAXING CRESCENT MOON SYMBOLaFIRST QUARTER MOON SYMBOLaW",
   "AXING GIBBOUS MOON SYMBOLaFULL MOON SYMBOLaWANING GIBBOUS MOON SYMBOLaLAST QUARTER MOON SYMBO",
   "LaWANING CRESCENT MOON SYMBOLaCRESCENT MOONaNEW MOON WITH FACEaFIRST QUARTER MOON WITH FACEaL",
   "AST QUARTER MOON WITH FACEaFULL MOON WITH FACEaSUN WITH FACEaGLOWING STARaSHOOTING STARaTHERM",
   "OMETERaBLACK DROPLETaWHITE SUNj WITH SMALL CLOUDkBEHIND CLOUDw WITH RAINaCLOUD WITH RAINlSNOW",
   "lLIGHTNINGlTORNADOaFOGaWIND BLOWING FACEaHOT DOGaTACOaBURRITOaCHESTNUTaSEEDLINGaEVERGREEN TRE",
   "EaDECIDUOUS TREEaPALM TREEaCACTUSaHOT PEPPERaTULIPaCHERRY BLOSSOMaROSEaHIBISCUSaSUNFLOWERaBLO",
   "SSOMaEAR OF MAIZEhRICEaHERBaFOUR LEAF CLOVERaMAPLE LEAFaFALLEN LEAFaLEAF FLUTTERING IN WINDaM",
   "USHROOMaTOMATOaAUBERGINEaGRAPESaMELONaWATERMELONaTANGERINEaLEMONaBANANAaPINEAPPLEaRED APPLEaG",
   "REEN APPLEaPEARdCHaCHERRIESaSTRAWBERRYaHAMBURGERaSLICE OF PIZZAaMEAT ON BONEaPOULTRY LEGaRICE",
   " CRACKERfBALLaCOOKED RICEbURRY AND RICEaSTEAMING BOWLbPAGHETTIaBREADaFRENCH FRIESaROASTED SWE",
   "ET POTATOaDANGOaODENaSUSHIaFRIED SHRIMPbISH CAKE WITH SWIRL DESIGNaSOFT ICE CREAMbHAVED ICEaI",
   "CE CREAMaDOUGHNUTaCOOKIEbHOCOLATE BARbANDYaLOLLIPOPaCUSTARDaHONEY POTaSHORTCAKEaBENTO BOXaPOT",
   " OF FOODaCOOKINGaFORK AND KNIFEaTEACUP WITHOUT HANDLEaSAKE BOTTLE AND CUPaWINE GLASSaCOCKTAIL",
   " GLASSaTROPICAL DRINKaBEER MUGaCLINKING BEER MUGSaBABY BOTTLEaFORK AND KNIFE WITH PLATEaBOTTL",
   "E WITH POPPING CORKaPOPCORNaRIBBONaWRAPPED PRESENTaBIRTHDAY CAKEaJACK-O-LANTERNaCHRISTMAS TRE",
   "EaFATHER CHRISTMASbIREWORKSi SPARKLERaBALLOONaPARTY POPPERaCONFETTI BALLaTANABATA TREEaCROSSE",
   "D FLAGSaPINE DECORATIONaJAPANESE DOLLSaCARP STREAMERaWIND CHIMEaMOON VIEWING CEREMONYaSCHOOL ",
   "SATCHELaGRADUATION CAPaHEART WITH TIP ON THE LEFTaBOUQUET OF FLOWERSaMILITARY MEDALaREMINDER ",
   "RIBBONaMUSICAL KEYBOARD WITH JACKSaSTUDIO MICROPHONEaLEVEL SLIDERaCONTROL KNOBSaBEAMED ASCEND",
   "ING MUSICAL NOTEShDESCENDING MUSICAL NOTESaFILM FRAMESaADMISSION TICKETSaCAROUSEL HORSEaFERRI",
   "S WHEELaROLLER COASTERaFISHING POLE AND FISHaMICROPHONEbOVIE CAMERAaCINEMAaHEADPHONEaARTIST P",
   "ALETTEaTOP HATaCIRCUS TENTaTICKETaCLAPPER BOARDaPERFORMING ARTSaVIDEO GAMEaDIRECT HITaSLOT MA",
   "CHINEaBILLIARDSaGAME DIEaBOWLINGaFLOWER PLAYING CARDSaMUSICAL NOTEcLTIPLE MUSICAL NOTESaSAXOP",
   "HONEaGUITARaMUSICAL KEYBOARDaTRUMPETaVIOLINaMUSICAL SCOREaRUNNING SHIRT WITH SASHaTENNIS RACQ",
   "UET AND BALLaSKI AND SKI BOOTaBASKETBALL AND HOOPaCHEQUERED FLAGaSNOWBOARDERaRUNNERaSURFERbPO",
   "RTS MEDALaTROPHYaHORSE RACINGaAMERICAN FOOTBALLaRUGBY FOOTBALLaSWIMMERaWEIGHT LIFTERaGOLFERaR",
   "ACING MOTORCYCLEhCARaCRICKET BAT AND BALLaVOLLEYBALLaFIELD HOCKEY STICK AND BALLaICE HOCKEY S",
   "TICK AND PUCKaTABLE TENNIS PADDLE AND BALLaSNOW CAPPED MOUNTAINaCAMPINGaBEACH WITH UMBRELLAbU",
   "ILDING CONSTRUCTIONaHOUSE BUILDINGSaCITYSCAPEaDERELICT HOUSE BUILDINGaCLASSICAL BUILDINGaDESE",
   "RTg ISLANDaNATIONAL PARKaSTADIUMaHOUSE BUILDINGgWITH GARDENaOFFICE BUILDINGaJAPANESE POST OFF",
   "ICEaEUROPEAN POST OFFICEaHOSPITALaBANKaAUTOMATED TELLER MACHINEaHOTELaLOVE HOTELaCONVENIENCE ",
   "STOREaSCHOOLaDEPARTMENT STOREaFACTORYaIZAKAYA LANTERNaJAPANESE CASTLEaEUROPEAN CASTLEaWHITE P",
   "ENNANTaBLACK PENNANTaWAVING WHITE FLAGhBLACK FLAGaROSETTEaBLACK ROSETTEaLABELaBADMINTON RACQU",
   "ET AND SHUTTLECOCKbOW AND ARROWaAMPHORAaEMOJI MODIFIER FITZPATRICK TYPE-1-2bg3bg4bg5bg6aRATaM",
   "OUSEaOXaWATER BUFFALOaCOWaTIGERaLEOPARDaRABBITaCATaDRAGONaCROCODILEaWHALEaSNAILdKEaHORSEaRAMa",
   "GOATaSHEEPaMONKEYaROOSTERaCHICKENaDOGaPIGaBOARaELEPHANTaOCTOPUSaSPIRAL SHELLaBUGaANTaHONEYBEE",
   "aLADY BEETLEaFISHaTROPICAL FISHaBLOWFISHaTURTLEaHATCHING CHICKaBABY CHICKaFRONT-FACING BABY C",
   "HICKaBIRDaPENGUINaKOALAaPOODLEaDROMEDARY CAMELaBACTRIAN CAMELaDOLPHINaMOUSE FACEaCOW FACEaTIG",
   "ER FACEaRABBIT FACEaCAT FACEaDRAGON FACEaSPOUTING WHALEaHORSE FACEaMONKEY FACEaDOG FACEaPIG F",
   "ACEaFROG FACEaHAMSTER FACEaWOLF FACEaBEAR FACEaPANDA FACEbIG NOSEbAW PRINTSaCHIPMUNKaEYEScEbA",
   "RaNOSEaMOUTHaTONGUEaWHITE UP POINTING BACKHAND INDEXgDOWN POINTING BACKHAND INDEXgLEFT POINTI",
   "NG BACKHAND INDEXgRIGHT POINTING BACKHAND INDEXaFISTED HAND SIGNaWAVING HAND SIGNaOK HAND SIG",
   "NaTHUMBS UP SIGNhDOWN SIGNaCLAPPING HANDS SIGNaOPEN HANDS SIGNaCROWNaWOMANS HATaEYEGLASSESaNE",
   "CKTIEaT-SHIRTaJEANSaDRESSaKIMONOaBIKINIaWOMANS CLOTHESaPURSEaHANDBAGaPOUCHaMANS SHOEaATHLETIC",
   " SHOEaHIGH-HEELED SHOEaWOMANS SANDALhBOOTSaFOOTPRINTSaBUST IN SILHOUETTEeS IN SILHOUETTEbOYaG",
   "IRLaMANaWOMANaFAMILYaMAN AND WOMAN HOLDING HANDSaTWO MEN HOLDING HANDSeWOMEN HOLDING HANDSaPO",
   "LICE OFFICERaWOMAN WITH BUNNY EARSaBRIDE WITH VEILaPERSON WITH BLOND HAIRaMAN WITH GUA PI MAO",
   "jTURBANaOLDER MANgWOMANaBABYaCONSTRUCTION WORKERaPRINCESSaJAPANESE OGREjGOBLINaGHOSTaBABY ANG",
   "ELaEXTRATERRESTRIAL ALIENaALIEN MONSTERaIMPaSKULLaINFORMATION DESK PERSONaGUARDSMANaDANCERaLI",
   "PSTICKaNAIL POLISHaFACE MASSAGEaHAIRCUTaBARBER POLEaSYRINGEaPILLaKISS MARKaLOVE LETTERaRINGaG",
   "EM STONEaKISSaBOUQUETaCOUPLE WITH HEARTaWEDDINGaBEATING HEARTbROKEN HEARTaTWO HEARTSaSPARKLIN",
   "G HEARTaGROWING HEARTaHEART WITH ARROWaBLUE HEARTaGREEN HEARTaYELLOW HEARTaPURPLE HEARTaHEART",
   " WITH RIBBONaREVOLVING HEARTSaHEART DECORATIONaDIAMOND SHAPE WITH A DOT INSIDEaELECTRIC LIGHT",
   " BULBaANGER SYMBOLaBOMBaSLEEPING SYMBOLaCOLLISION SYMBOLaSPLASHING SWEAT SYMBOLaDROPLETbASH S",
   "YMBOLaPILE OF POOaFLEXED BICEPSaDIZZY SYMBOLaSPEECH BALLOONaTHOUGHT BALLOONaWHITE FLOWERaHUND",
   "RED POINTS SYMBOLaMONEY BAGaCURRENCY EXCHANGEaHEAVY DOLLAR SIGNaCREDIT CARDaBANKNOTE WITH YEN",
   " SIGNoDOLLAR SIGNoEURO SIGNoPOUND SIGNaMONEY WITH WINGSaCHART WITH UPWARDS TREND AND YEN SIGN",
   "aSEATaPERSONAL COMPUTERaBRIEFCASEaMINIDISCaFLOPPY DISKaOPTICAL DISCaDVDaFILE FOLDERaOPEN FILE",
   " FOLDERaPAGE WITH CURLfFACING UPaCALENDARaTEAR-OFF CALENDARaCARD INDEXbHART WITH UPWARDS TREN",
   "DlDOWNWARDS TRENDaBAR CHARTaCLIPBOARDaPUSHPINaROUND PUSHPINaPAPERCLIPaSTRAIGHT RULERaTRIANGUL",
   "AR RULERaBOOKMARK TABSaLEDGERaNOTEBOOKi WITH DECORATIVE COVERaCLOSED BOOKaOPEN BOOKaGREEN BOO",
   "KaBLUE BOOKaORANGE BOOKaBOOKSaNAME BADGEaSCROLLaMEMOaTELEPHONE RECEIVERaPAGERaFAX MACHINEaSAT",
   "ELLITE ANTENNAaPUBLIC ADDRESS LOUDSPEAKERaCHEERING MEGAPHONEaOUTBOX TRAYaINBOX TRAYaPACKAGEaE",
   "-MAIL SYMBOLaINCOMING ENVELOPEaENVELOPE WITH DOWNWARDS ARROW ABOVEaCLOSED MAILBOX WITH LOWERE",
   "D FLAGuRAISED FLAGaOPEN MAILBOX WITH RAISED FLAGsLOWERED FLAGaPOSTBOXeAL HORNaNEWSPAPERaMOBIL",
   "E PHONEm WITH RIGHTWARDS ARROW AT LEFTaVIBRATION MODEaMOBILE PHONE OFFaNO MOBILE PHONESaANTEN",
   "NA WITH BARSaCAMERAg WITH FLASHaVIDEO CAMERAaTELEVISIONaRADIOaVIDEOCASSETTEaFILM PROJECTORaPO",
   "RTABLE STEREObRAYER BEADSaTWISTED RIGHTWARDS ARROWSaCLOCKWISE RIGHTWARDS AND LEFTWARDS OPEN C",
   "IRCLE ARROWScb WITH CIRCLED ONE OVERLAYkDOWNWARDS AND UPWARDS OPEN CIRCLE ARROWSaANTICLOCKWIS",
   "E DOWNWARDS AND UPWARDS OPEN CIRCLE ARROWSaLOW BRIGHTNESS SYMBOLaHIGH BRIGHTNESS SYMBOLaSPEAK",
   "ER WITH CANCELLATION STROKEgRh WITH ONE SOUND WAVEnTHREE SOUND WAVESaBATTERYaELECTRIC PLUGaLE",
   "FT-POINTING MAGNIFYING GLASSaRIGHT-POINTING MAGNIFYING GLASSaLOCK WITH INK PENaCLOSED LOCK WI",
   "TH KEYaKEYaLOCKaOPEN LOCKaBELLe WITH CANCELLATION STROKEbOOKMARKaLINK SYMBOLaRADIO BUTTONaBAC",
   "K WITH LEFTWARDS ARROW ABOVEaEND WITH LEFTWARDS ARROW ABOVEaON WITH EXCLAMATION MARK WITH LEF",
   "T RIGHT ARROW ABOVEaSOON WITH RIGHTWARDS ARROW ABOVEaTOP WITH UPWARDS ARROW ABOVEaNO ONE UNDE",
   "R EIGHTEEN SYMBOLaKEYCAP TENaINPUT SYMBOL FOR LATIN CAPITAL LETTERSxSMALL LETTERSrNUMBERSrSYM",
   "BOLSrLATIN LETTERSaFIREaELECTRIC TORCHaWRENCHaHAMMERaNUT AND BOLTaHOCHOaPISTOLaMICROSCOPEaTEL",
   "ESCOPEaCRYSTAL BALLaSIX POINTED STAR WITH MIDDLE DOTaJAPANESE SYMBOL FOR BEGINNERaTRIDENT EMB",
   "LEMaBLACK SQUARE BUTTONaWHITE SQUARE BUTTONaLARGE RED CIRCLEgBLUE CIRCLEgORANGE DIAMONDgBLUE ",
   "DIAMONDaSMALL ORANGE DIAMONDgBLUE DIAMONDaUP-POINTING RED TRIANGLEaDOWN-POINTING RED TRIANGLE",
   "aUP-POINTING SMALL RED TRIANGLEaDOWN-POINTING SMALL RED TRIANGLEaLOWER RIGHT SHADOWED WHITE C",
   "IRCLEaUPPER RIGHT SHADOWED WHITE CIRCLEaCIRCLED CROSS POMMEEbROSS POMMEE WITH HALF-CIRCLE BEL",
   "OWlEaNOTCHED LEFT SEMICIRCLE WITH THREE DOTSiRIGHT SEMICIRCLE WITH THREE DOTSaSYMBOL FOR MARK",
   "S CHAPTERaWHITE LATIN CROSSaHEAVY LATIN CROSSaCELTIC CROSSaOM SYMBOLaDOVE OF PEACEaKAABAaMOSQ",
   "UEaSYNAGOGUEaMENORAH WITH NINE BRANCHESaBOWL OF HYGIEIAaCLOCK FACE ONE OCLOCKlTWO OCLOCKmHREE",
   " OCLOCKlFOUR OCLOCKmIVE OCLOCKlSIX OCLOCKmEVEN OCLOCKlEIGHT OCLOCKlNINE OCLOCKlTEN OCLOCKlELE",
   "VEN OCLOCKlTWELVE OCLOCKlONE-THIRTYlTWO-THIRTYmHREE-THIRTYlFOUR-THIRTYmIVE-THIRTYlSIX-THIRTYm",
   "EVEN-THIRTYlEIGHT-THIRTYlNINE-THIRTYlTEN-THIRTYlELEVEN-THIRTYlTWELVE-THIRTYaRIGHT SPEAKERn WI",
   "TH ONE SOUND WAVEtTHREE SOUND WAVESaBULLHORNi WITH SOUND WAVESaRINGING BELLaBOOKaCANDLEaMANTE",
   "LPIECE CLOCKaBLACK SKULL AND CROSSBONESaNO PIRACYaHOLEaMAN IN BUSINESS SUIT LEVITATINGaSLEUTH",
   " OR SPYaDARK SUNGLASSESaSPIDERg WEBaJOYSTICKaMAN DANCINGaLEFT HAND TELEPHONE RECEIVERaTELEPHO",
   "NE RECEIVER WITH PAGEaRIGHT HAND TELEPHONE RECEIVERaWHITE TOUCHTONE TELEPHONEaBLACK TOUCHTONE",
   " TELEPHONEaTELEPHONE ON TOP OF MODEMaCLAMSHELL MOBILE PHONEaBACK OF ENVELOPEaSTAMPED ENVELOPE",
   "aENVELOPE WITH LIGHTNINGaFLYING ENVELOPEaPEN OVER STAMPED ENVELOPEaLINKED PAPERCLIPSaBLACK PU",
   "SHPINaLOWER LEFT PENCILlBALLPOINT PENlFOUNTAIN PENlPAINTBRUSHlCRAYONbEFT WRITING HANDaTURNED ",
   "OK HAND SIGNaRAISED HAND WITH FINGERS SPLAYEDbEVERSED RAISED HAND WITH FINGERS SPLAYEDjTHUMBS",
   " UP SIGNqDOWN SIGNjVICTORY HANDjHAND WITH MIDDLE FINGER EXTENDEDbAISED HAND WITH PART BETWEEN",
   " MIDDLE AND RING FINGERSaWHITE DOWN POINTING LEFT HAND INDEXaSIDEWAYS WHITE LEFT POINTING IND",
   "EXpRIGHT POINTING INDEXjBLACK LEFT POINTING INDEXpRIGHT POINTING INDEXaBLACK LEFT POINTING BA",
   "CKHAND INDEXgRIGHT POINTING BACKHAND INDEXaSIDEWAYS WHITE UP POINTING INDEXpDOWN POINTING IND",
   "EXjBLACK UP POINTING INDEXpDOWN POINTING INDEXaBLACK UP POINTING BACKHAND INDEXgDOWN POINTING",
   " BACKHAND INDEXgHEARTaDESKTOP COMPUTERaKEYBOARD AND MOUSEaTHREE NETWORKED COMPUTERSaPRINTERbO",
   "CKET CALCULATORaBLACK HARD SHELL FLOPPY DISKaWHITE HARD SHELL FLOPPY DISKaSOFT SHELL FLOPPY D",
   "ISKaTAPE CARTRIDGEaWIRED KEYBOARDaONE BUTTON MOUSEaTWO BUTTON MOUSEbHREE BUTTON MOUSEbRACKBAL",
   "LaOLD PERSONAL COMPUTERaHARD DISKaSCREENaPRINTER ICONaFAX ICONaOPTICAL DISC ICONaDOCUMENT WIT",
   "H TEXTs AND PICTUREoPICTUREaFRAME WITH PICTURElTILESlAN XaBLACK FOLDERaFOLDERaOPEN FOLDERaCAR",
   "D INDEX DIVIDERSfFILE BOXaFILE CABINETaEMPTY NOTEk PAGEnDaNOTEe PAGEhDaEMPTY DOCUMENTgPAGEkSa",
   "DOCUMENTaPAGEeSaWASTEBASKETaSPIRAL NOTE PADhCALENDAR PADaDESKTOP WINDOWaMINIMIZEbAXIMIZEaOVER",
   "LAPaCLOCKWISE RIGHT AND LEFT SEMICIRCLE ARROWSbANCELLATION XaINCREASE FONT SIZE SYMBOLaDECREA",
   "SE FONT SIZE SYMBOLaCOMPRESSIONaOLD KEYaROLLED-UP NEWSPAPERaPAGE WITH CIRCLED TEXTaSTOCK CHAR",
   "TaDAGGER KNIFEaLIPSaSPEAKING HEAD IN SILHOUETTEaTHREE RAYS ABOVElBELOWlLEFTlRIGHTaLEFT SPEECH",
   " BUBBLEaRIGHT SPEECH BUBBLEaTWO SPEECH BUBBLESbHREE SPEECH BUBBLESaLEFT THOUGHT BUBBLEaRIGHT ",
   "THOUGHT BUBBLEaLEFT ANGER BUBBLEaRIGHT ANGER BUBBLEaMOOD BUBBLEaLIGHTNING MOOD BUBBLEnDaBALLO",
   "T BOX WITH BALLOThSCRIPT XhBOX WITH SCRIPT XjLD SCRIPT XjX WITH BOLD SCRIPT XaLIGHT CHECK MAR",
   "KaBALLOT BOX WITH BOLD CHECKaWORLD MAPaMOUNT FUJIaTOKYO TOWERaSTATUE OF LIBERTYbILHOUETTE OF ",
   "JAPANaMOYAIaGRINNING FACEn WITH SMILING EYESaFACE WITH TEARS OF JOYaSMILING FACE WITH OPEN MO",
   "UTHbc AND SMILING EYESbhCOLD SWEATbhTIGHTLY-CLOSED EYESsHALOtORNSaWINKING FACEaSMILING FACE W",
   "ITH SMILING EYESaFACE SAVOURING DELICIOUS FOODaRELIEVED FACEaSMILING FACE WITH HEART-SHAPED E",
   "YESsSUNGLASSESdRKING FACEaNEUTRAL FACEaEXPRESSIONLESS FACEaUNAMUSED FACEaFACE WITH COLD SWEAT",
   "aPENSIVE FACEaCONFUSED FACEeOUNDED FACEaKISSING FACEaFACE THROWING A KISSaKISSING FACE WITH S",
   "MILING EYESsCLOSED EYESaFACE WITH STUCK-OUT TONGUEba AND WINKING EYEbfTIGHTLY-CLOSED EYESaDIS",
   "APPOINTED FACEaWORRIED FACEaANGRY FACEaPOUTING FACEaCRYING FACEaPERSEVERING FACEaFACE WITH LO",
   "OK OF TRIUMPHaDISAPPOINTED BUT RELIEVED FACEaFROWNING FACE WITH OPEN MOUTHaANGUISHED FACEaFEA",
   "RFUL FACEaWEARY FACEaSLEEPY FACEaTIRED FACEaGRIMACING FACEaLOUDLY CRYING FACEaFACE WITH OPEN ",
   "MOUTHaHUSHED FACEaFACE WITH OPEN MOUTH AND COLD SWEATfSCREAMING IN FEARaASTONISHED FACEaFLUSH",
   "ED FACEaSLEEPING FACEaDIZZY FACEaFACE WITHOUT MOUTHj MEDICAL MASKaGRINNING CAT FACE WITH SMIL",
   "ING EYESaCAT FACE WITH TEARS OF JOYaSMILING CAT FACE WITH OPEN MOUTHwHEART-SHAPED EYESaCAT FA",
   "CE WITH WRY SMILEaKISSING CAT FACE WITH CLOSED EYESaPOUTING CAT FACEaCRYING CAT FACEaWEARY CA",
   "T FACEaSLIGHTLY FROWNING FACEjSMILING FACEaUPSIDE-DOWN FACEaFACE WITH ROLLING EYESkNO GOOD GE",
   "STUREkOK GESTUREaPERSON BOWING DEEPLYaSEE-NO-EVIL MONKEYaHEAR-NO-EVIL MONKEYaSPEAK-NO-EVIL MO",
   "NKEYaHAPPY PERSON RAISING ONE HANDaPERSON RAISING BOTH HANDS IN CELEBRATIONhFROWNINGhWITH POU",
   "TING FACEmFOLDED HANDSaNORTH WEST POINTING LEAFaSOUTH WEST POINTING LEAFaNORTH EAST POINTING ",
   "LEAFaSOUTH EAST POINTING LEAFaTURNED NORTH WEST POINTING LEAFhSOUTH WEST POINTING LEAFhNORTH ",
   "EAST POINTING LEAFhSOUTH EAST POINTING LEAFaNORTH WEST POINTING VINE LEAFaSOUTH WEST POINTING",
   " VINE LEAFaNORTH EAST POINTING VINE LEAFaSOUTH EAST POINTING VINE LEAFaHEAVY NORTH WEST POINT",
   "ING VINE LEAFgSOUTH WEST POINTING VINE LEAFgNORTH EAST POINTING VINE LEAFgSOUTH EAST POINTING",
   " VINE LEAFaNORTH WEST POINTING BUDaSOUTH WEST POINTING BUDaNORTH EAST POINTING BUDaSOUTH EAST",
   " POINTING BUDaHEAVY NORTH WEST POINTING BUDgSOUTH WEST POINTING BUDgNORTH EAST POINTING BUDgS",
   "OUTH EAST POINTING BUDbOLLOW QUILT SQUARE ORNAMENTbc IN BLACK SQUAREaSOLID QUILT SQUARE ORNAM",
   "ENTbb IN BLACK SQUAREaLEFTWARDS ROCKETaUPWARDS ROCKETaRIGHTWARDS ROCKETaDOWNWARDS ROCKETaSCRI",
   "PT LIGATURE ET ORNAMENTaHEAVY SCRIPT LIGATURE ET ORNAMENTaLIGATURE OPEN ET ORNAMENTaHEAVY LIG",
   "ATURE OPEN ET ORNAMENTgAMPERSAND ORNAMENTaSWASH AMPERSAND ORNAMENTbANS-SERIF HEAVY DOUBLE TUR",
   "NED COMMA QUOTATION MARK ORNAMENTyCOMMA QUOTATION MARK ORNAMENTrLOW DOUBLE COMMA QUOTATION MA",
   "RK ORNAMENTaHEAVY INTERROBANG ORNAMENTaSANS-SERIF INTERROBANG ORNAMENTaHEAVY SANS-SERIF INTER",
   "ROBANG ORNAMENTaVERY HEAVY SOLIDUSlREVERSE SOLIDUSaCHECKER BOARDaREVERSE CHECKER BOARDbOCKETa",
   "HELICOPTERaSTEAM LOCOMOTIVEaRAILWAY CARaHIGH-SPEED TRAINq WITH BULLET NOSEaTRAINaMETROaLIGHT ",
   "RAILaSTATIONaTRAMe CARaBUSaONCOMING BUSaTROLLEYBUSaBUS STOPaMINIBUSaAMBULANCEaFIRE ENGINEaPOL",
   "ICE CARaONCOMING POLICE CARaTAXIaONCOMING TAXIaAUTOMOBILEaONCOMING AUTOMOBILEaRECREATIONAL VE",
   "HICLEaDELIVERY TRUCKaARTICULATED LORRYaTRACTORaMONORAILcUNTAIN RAILWAYaSUSPENSION RAILWAYaMOU",
   "NTAIN CABLEWAYaAERIAL TRAMWAYaSHIPaROWBOATaSPEEDBOATaHORIZONTAL TRAFFIC LIGHTaVERTICAL TRAFFI",
   "C LIGHTaCONSTRUCTION SIGNaPOLICE CARS REVOLVING LIGHTaTRIANGULAR FLAG ON POSTaDOORaNO ENTRY S",
   "IGNaSMOKING SYMBOLaNO SMOKING SYMBOLaPUT LITTER IN ITS PLACE SYMBOLaDO NOT LITTER SYMBOLaPOTA",
   "BLE WATER SYMBOLaNON-POTABLE WATER SYMBOLaBICYCLEaNO BICYCLESaBICYCLISTaMOUNTAIN BICYCLISTaPE",
   "DESTRIANaNO PEDESTRIANSaCHILDREN CROSSINGaMENS SYMBOLaWOMENS SYMBOLaRESTROOMaBABY SYMBOLaTOIL",
   "ETaWATER CLOSETaSHOWERaBATHeTUBaPASSPORT CONTROLaCUSTOMSaBAGGAGE CLAIMaLEFT LUGGAGEaTRIANGLE ",
   "WITH ROUNDED CORNERSaPROHIBITED SIGNaCIRCLED INFORMATION SOURCEaBOYS SYMBOLaGIRLS SYMBOLaCOUC",
   "H AND LAMPaSLEEPING ACCOMMODATIONbHOPPING BAGSaBELLHOP BELLcDaPLACE OF WORSHIPaOCTAGONAL SIGN",
   "aSHOPPING TROLLEYbTUPAaPAGODAaHINDU TEMPLEbUTaELEVATOR@128733aPLAYGROUND SLIDEaWHEELaRING BUO",
   "YaHAMMER AND WRENCHaSHIELDaOIL DRUMaMOTORWAYaRAILWAY TRACKaMOTOR BOATaUP-POINTING MILITARY AI",
   "RPLANEmAIRPLANEmSMALL AIRPLANEaSMALL AIRPLANEaNORTHEAST-POINTING AIRPLANEaAIRPLANE DEPARTUREj",
   "ARRIVING@128752aSATELLITEaONCOMING FIRE ENGINEaDIESEL LOCOMOTIVEaPASSENGER SHIPaSCOOTERaMOTOR",
   " SCOOTERaCANOEaSLEDaFLYING SAUCERaSKATEBOARDaAUTO RICKSHAWaPICKUP TRUCKaROLLER SKATE@128768aA",
   "LCHEMICAL SYMBOL FOR QUINTESSENCEwAIRwFIREwEARTHwWATERwAQUAFORTISba REGIAbg-2bbVITAEbg-2wVINE",
   "GARbd-2be3wSULFURwPHILOSOPHERS SULFURwBLACK SULFURwMERCURY SUBLIMATEbn-2bo3wCINNABARwSALTwNIT",
   "REwVITRIOLbd-2wROCK SALTbf-2wGOLDwSILVERwIRON OREbe-2wCROCUS OF IRONwREGULUS OF IRONwCOPPER O",
   "REwIRON-COPPER OREwSUBLIMATE OF COPPERwCROCUS OF COPPERbm-2xOPPER ANTIMONIATEwSALT OF COPPER ",
   "ANTIMONIATExUBLIMATE OF SALT OF COPPERwVERDIGRISwTIN OREwLEAD OREwANTIMONY OREwSUBLIMATE OF A",
   "NTIMONYxALT OF ANTIMONYxUBLIMATE OF SALT OF ANTIMONYwVINEGAR OF ANTIMONYwREGULUS OF ANTIMONYb",
   "p-2bcSbd-2be3be4wALKALIbc-2wMARCASITEwSAL-AMMONIACwARSENICwREALGARbd-2wAURIPIGMENTwBISMUTH OR",
   "EwTARTARbc-2wQUICK LIMEwBORAXbb-2bc3wALUMwOILwSPIRITwTINCTUREwGUMwWAXwPOWDERwCALXwTUTTYwCAPUT",
   " MORTUUMwSCEPTER OF JOVEwCADUCEUSwTRIDENTwSTARRED TRIDENTwLODESTONEwSOAPwURINEwHORSE DUNGwASH",
   "ESwPOT ASHESwBRICKwPOWDERED BRICKwAMALGAMwSTRATUM SUPER STRATUMbr-2xUBLIMATIONwPRECIPITATEwDI",
   "STILLzSOLVEbe-2wPURIFYyTREFACTIONwCRUCIBLEbe-2bf3bf4bf5wALEMBICwBATH OF MARYbeVAPOURSwRETORTw",
   "HOURwNIGHTwDAY-NIGHTwMONTHwHALF DRAMbbOUNCE@128896aBLACK LEFT-POINTING ISOSCELES RIGHT TRIANG",
   "LEgUP-POINTING ISOSCELES RIGHT TRIANGLEgRIGHT-POINTING ISOSCELES RIGHT TRIANGLEgDOWN-POINTING",
   " ISOSCELES RIGHT TRIANGLEgSLIGHTLY SMALL CIRCLEaMEDIUM BOLD WHITE CIRCLEaBOLD WHITE CIRCLEaHE",
   "AVY WHITE CIRCLEaVERY HEAVY WHITE CIRCLEaEXTREMELY HEAVY WHITE CIRCLEaWHITE CIRCLE CONTAINING",
   " BLACK SMALL CIRCLEaROUND TARGETaBLACK TINY SQUAREgSLIGHTLY SMALL SQUAREaLIGHT WHITE SQUAREaM",
   "EDIUM WHITE SQUAREaBOLD WHITE SQUAREaHEAVY WHITE SQUAREaVERY HEAVY WHITE SQUAREaEXTREMELY HEA",
   "VY WHITE SQUAREaWHITE SQUARE CONTAINING BLACK VERY SMALL SQUAREbeMEDIUM SQUAREaSQUARE TARGETa",
   "BLACK TINY DIAMONDgVERY SMALL DIAMONDgMEDIUM SMALL DIAMONDaWHITE DIAMOND CONTAINING BLACK VER",
   "Y SMALL DIAMONDbfMEDIUM DIAMONDaDIAMOND TARGETaBLACK TINY LOZENGEgVERY SMALL LOZENGEgMEDIUM S",
   "MALL LOZENGEaWHITE LOZENGE CONTAINING BLACK SMALL LOZENGEaTHIN GREEK CROSSaLIGHT GREEK CROSSa",
   "MEDIUM GREEK CROSSaBOLD GREEK CROSSaVERY BOLD GREEK CROSSfHEAVY GREEK CROSSaEXTREMELY HEAVY G",
   "REEK CROSSaTHIN SALTIREaLIGHT SALTIREaMEDIUM SALTIREaBOLD SALTIREaHEAVY SALTIREaVERY HEAVY SA",
   "LTIREaEXTREMELY HEAVY SALTIREaLIGHT FIVE SPOKED ASTERISKaMEDIUM FIVE SPOKED ASTERISKaBOLD FIV",
   "E SPOKED ASTERISKaHEAVY FIVE SPOKED ASTERISKaVERY HEAVY FIVE SPOKED ASTERISKaEXTREMELY HEAVY ",
   "FIVE SPOKED ASTERISKaLIGHT SIX SPOKED ASTERISKaMEDIUM SIX SPOKED ASTERISKaBOLD SIX SPOKED AST",
   "ERISKaHEAVY SIX SPOKED ASTERISKaVERY HEAVY SIX SPOKED ASTERISKaEXTREMELY HEAVY SIX SPOKED AST",
   "ERISKaLIGHT EIGHT SPOKED ASTERISKaMEDIUM EIGHT SPOKED ASTERISKaBOLD EIGHT SPOKED ASTERISKaHEA",
   "VY EIGHT SPOKED ASTERISKaVERY HEAVY EIGHT SPOKED ASTERISKaLIGHT THREE POINTED BLACK STARaMEDI",
   "UM THREE POINTED BLACK STARaTHREE POINTED BLACK STARaMEDIUM THREE POINTED PINWHEEL STARaLIGHT",
   " FOUR POINTED BLACK STARaMEDIUM FOUR POINTED BLACK STARaFOUR POINTED BLACK STARaMEDIUM FOUR P",
   "OINTED PINWHEEL STARaREVERSE LIGHT FOUR POINTED PINWHEEL STARaLIGHT FIVE POINTED BLACK STARaH",
   "EAVY FIVE POINTED BLACK STARaMEDIUM SIX POINTED BLACK STARaHEAVY SIX POINTED BLACK STARaSIX P",
   "OINTED PINWHEEL STARaMEDIUM EIGHT POINTED BLACK STARaHEAVY EIGHT POINTED BLACK STARaVERY HEAV",
   "Y EIGHT POINTED BLACK STARaHEAVY EIGHT POINTED PINWHEEL STARaLIGHT TWELVE POINTED BLACK STARa",
   "HEAVY TWELVE POINTED BLACK STARvPINWHEEL STARaCIRCLED TRIANGLEaNEGATIVE CIRCLED TRIANGLEaCIRC",
   "LED SQUAREaNEGATIVE CIRCLED SQUARE@128992aLARGE ORANGE CIRCLEgYELLOW CIRCLEgGREEN CIRCLEgPURP",
   "LE CIRCLEgBROWN CIRCLEgRED SQUAREgBLUE SQUAREgORANGE SQUAREgYELLOW SQUAREgGREEN SQUAREgPURPLE",
   " SQUAREgBROWN SQUARE@129008aHEAVY EQUALS SIGN@129024aLEFTWARDS ARROW WITH SMALL TRIANGLE ARRO",
   "WHEADaUPWARDS ARROW WITH SMALL TRIANGLE ARROWHEADaRIGHTWARDS ARROW WITH SMALL TRIANGLE ARROWH",
   "EADaDOWNWARDS ARROW WITH SMALL TRIANGLE ARROWHEADaLEFTWARDS ARROW WITH MEDIUM TRIANGLE ARROWH",
   "EADaUPWARDS ARROW WITH MEDIUM TRIANGLE ARROWHEADaRIGHTWARDS ARROW WITH MEDIUM TRIANGLE ARROWH",
   "EADaDOWNWARDS ARROW WITH MEDIUM TRIANGLE ARROWHEADaLEFTWARDS ARROW WITH LARGE TRIANGLE ARROWH",
   "EADaUPWARDS ARROW WITH LARGE TRIANGLE ARROWHEADaRIGHTWARDS ARROW WITH LARGE TRIANGLE ARROWHEA",
   "DaDOWNWARDS ARROW WITH LARGE TRIANGLE ARROWHEAD@129040aLEFTWARDS ARROW WITH SMALL EQUILATERAL",
   " ARROWHEADaUPWARDS ARROW WITH SMALL EQUILATERAL ARROWHEADaRIGHTWARDS ARROW WITH SMALL EQUILAT",
   "ERAL ARROWHEADaDOWNWARDS ARROW WITH SMALL EQUILATERAL ARROWHEADaLEFTWARDS ARROW WITH EQUILATE",
   "RAL ARROWHEADaUPWARDS ARROW WITH EQUILATERAL ARROWHEADaRIGHTWARDS ARROW WITH EQUILATERAL ARRO",
   "WHEADaDOWNWARDS ARROW WITH EQUILATERAL ARROWHEADaHEAVY LEFTWARDS ARROW WITH EQUILATERAL ARROW",
   "HEADgUPWARDS ARROW WITH EQUILATERAL ARROWHEADgRIGHTWARDS ARROW WITH EQUILATERAL ARROWHEADgDOW",
   "NWARDS ARROW WITH EQUILATERAL ARROWHEADgLEFTWARDS ARROW WITH LARGE EQUILATERAL ARROWHEADgUPWA",
   "RDS ARROW WITH LARGE EQUILATERAL ARROWHEADgRIGHTWARDS ARROW WITH LARGE EQUILATERAL ARROWHEADg",
   "DOWNWARDS ARROW WITH LARGE EQUILATERAL ARROWHEADaLEFTWARDS TRIANGLE-HEADED ARROW WITH NARROW ",
   "SHAFTaUPWARDS TRIANGLE-HEADED ARROW WITH NARROW SHAFTaRIGHTWARDS TRIANGLE-HEADED ARROW WITH N",
   "ARROW SHAFTaDOWNWARDS TRIANGLE-HEADED ARROW WITH NARROW SHAFTaLEFTWARDS TRIANGLE-HEADED ARROW",
   " WITH MEDIUM SHAFTaUPWARDS TRIANGLE-HEADED ARROW WITH MEDIUM SHAFTaRIGHTWARDS TRIANGLE-HEADED",
   " ARROW WITH MEDIUM SHAFTaDOWNWARDS TRIANGLE-HEADED ARROW WITH MEDIUM SHAFTaLEFTWARDS TRIANGLE",
   "-HEADED ARROW WITH BOLD SHAFTaUPWARDS TRIANGLE-HEADED ARROW WITH BOLD SHAFTaRIGHTWARDS TRIANG",
   "LE-HEADED ARROW WITH BOLD SHAFTaDOWNWARDS TRIANGLE-HEADED ARROW WITH BOLD SHAFTaLEFTWARDS TRI",
   "ANGLE-HEADED ARROW WITH HEAVY SHAFTaUPWARDS TRIANGLE-HEADED ARROW WITH HEAVY SHAFTaRIGHTWARDS",
   " TRIANGLE-HEADED ARROW WITH HEAVY SHAFTaDOWNWARDS TRIANGLE-HEADED ARROW WITH HEAVY SHAFTaLEFT",
   "WARDS TRIANGLE-HEADED ARROW WITH VERY HEAVY SHAFTaUPWARDS TRIANGLE-HEADED ARROW WITH VERY HEA",
   "VY SHAFTaRIGHTWARDS TRIANGLE-HEADED ARROW WITH VERY HEAVY SHAFTaDOWNWARDS TRIANGLE-HEADED ARR",
   "OW WITH VERY HEAVY SHAFTaLEFTWARDS FINGER-POST ARROWaUPWARDS FINGER-POST ARROWaRIGHTWARDS FIN",
   "GER-POST ARROWaDOWNWARDS FINGER-POST ARROWaLEFTWARDS SQUARED ARROWaUPWARDS SQUARED ARROWaRIGH",
   "TWARDS SQUARED ARROWaDOWNWARDS SQUARED ARROWaLEFTWARDS COMPRESSED ARROWaUPWARDS COMPRESSED AR",
   "ROWaRIGHTWARDS COMPRESSED ARROWaDOWNWARDS COMPRESSED ARROWaLEFTWARDS HEAVY COMPRESSED ARROWaU",
   "PWARDS HEAVY COMPRESSED ARROWaRIGHTWARDS HEAVY COMPRESSED ARROWaDOWNWARDS HEAVY COMPRESSED AR",
   "ROWaLEFTWARDS HEAVY ARROWaUPWARDS HEAVY ARROWaRIGHTWARDS HEAVY ARROWaDOWNWARDS HEAVY ARROW@12",
   "9104aLEFTWARDS SANS-SERIF ARROWaUPWARDS SANS-SERIF ARROWaRIGHTWARDS SANS-SERIF ARROWaDOWNWARD",
   "S SANS-SERIF ARROWaNORTH WEST SANS-SERIF ARROWgEAST SANS-SERIF ARROWaSOUTH EAST SANS-SERIF AR",
   "ROWgWEST SANS-SERIF ARROWaLEFT RIGHT SANS-SERIF ARROWaUP DOWN SANS-SERIF ARROW@129120aWIDE-HE",
   "ADED LEFTWARDS LIGHT BARB ARROWmUPWARDS LIGHT BARB ARROWmRIGHTWARDS LIGHT BARB ARROWmDOWNWARD",
   "S LIGHT BARB ARROWmNORTH WEST LIGHT BARB ARROWsEAST LIGHT BARB ARROWmSOUTH EAST LIGHT BARB AR",
   "ROWsWEST LIGHT BARB ARROWmLEFTWARDS BARB ARROWmUPWARDS BARB ARROWmRIGHTWARDS BARB ARROWmDOWNW",
   "ARDS BARB ARROWmNORTH WEST BARB ARROWsEAST BARB ARROWmSOUTH EAST BARB ARROWsWEST BARB ARROWmL",
   "EFTWARDS MEDIUM BARB ARROWmUPWARDS MEDIUM BARB ARROWmRIGHTWARDS MEDIUM BARB ARROWmDOWNWARDS M",
   "EDIUM BARB ARROWmNORTH WEST MEDIUM BARB ARROWsEAST MEDIUM BARB ARROWmSOUTH EAST MEDIUM BARB A",
   "RROWsWEST MEDIUM BARB ARROWmLEFTWARDS HEAVY BARB ARROWmUPWARDS HEAVY BARB ARROWmRIGHTWARDS HE",
   "AVY BARB ARROWmDOWNWARDS HEAVY BARB ARROWmNORTH WEST HEAVY BARB ARROWsEAST HEAVY BARB ARROWmS",
   "OUTH EAST HEAVY BARB ARROWsWEST HEAVY BARB ARROWmLEFTWARDS VERY HEAVY BARB ARROWmUPWARDS VERY",
   " HEAVY BARB ARROWmRIGHTWARDS VERY HEAVY BARB ARROWmDOWNWARDS VERY HEAVY BARB ARROWmNORTH WEST",
   " VERY HEAVY BARB ARROWsEAST VERY HEAVY BARB ARROWmSOUTH EAST VERY HEAVY BARB ARROWsWEST VERY ",
   "HEAVY BARB ARROW@129168aLEFTWARDS TRIANGLE ARROWHEADaUPWARDS TRIANGLE ARROWHEADaRIGHTWARDS TR",
   "IANGLE ARROWHEADaDOWNWARDS TRIANGLE ARROWHEADaLEFTWARDS WHITE ARROW WITHIN TRIANGLE ARROWHEAD",
   "aUPWARDS WHITE ARROW WITHIN TRIANGLE ARROWHEADaRIGHTWARDS WHITE ARROW WITHIN TRIANGLE ARROWHE",
   "ADaDOWNWARDS WHITE ARROW WITHIN TRIANGLE ARROWHEADaLEFTWARDS ARROW WITH NOTCHED TAILaUPWARDS ",
   "ARROW WITH NOTCHED TAILaRIGHTWARDS ARROW WITH NOTCHED TAILaDOWNWARDS ARROW WITH NOTCHED TAILa",
   "HEAVY ARROW SHAFT WIDTH ONEyTWO THIRDSyONE HALFbcTHIRDaLEFTWARDS BOTTOM-SHADED WHITE ARROWaRI",
   "GHTWARDS BOTTOM SHADED WHITE ARROWaLEFTWARDS TOP SHADED WHITE ARROWaRIGHTWARDS TOP SHADED WHI",
   "TE ARROWaLEFTWARDS LEFT-SHADED WHITE ARROWaRIGHTWARDS RIGHT-SHADED WHITE ARROWaLEFTWARDS RIGH",
   "T-SHADED WHITE ARROWaRIGHTWARDS LEFT-SHADED WHITE ARROWaLEFTWARDS BACK-TILTED SHADOWED WHITE ",
   "ARROWaRIGHTWARDS BACK-TILTED SHADOWED WHITE ARROWaLEFTWARDS FRONT-TILTED SHADOWED WHITE ARROW",
   "aRIGHTWARDS FRONT-TILTED SHADOWED WHITE ARROWaWHITE ARROW SHAFT WIDTH ONEyTWO THIRDS@129200aA",
   "RROW POINTING UPWARDS THEN NORTH WESTpRIGHTWARDS THEN CURVING SOUTH WEST@129280aCIRCLED CROSS",
   " FORMEE WITH FOUR DOTSbaTWO DOTStEaLEFT HALF CIRCLE WITH FOUR DOTSwTHREE DOTSxWO DOTSwDOTpEaD",
   "OWNWARD FACING HOOKqNOTCHED HOOKqHOOK WITH DOTqNOTCHED HOOK WITH DOTaPINCHED FINGERSaWHITE HE",
   "ARTaBROWN HEARTaPINCHING HANDaZIPPER-MOUTH FACEaMONEY-MOUTH FACEaFACE WITH THERMOMETERaNERD F",
   "ACEaTHINKING FACEaFACE WITH HEAD-BANDAGEaROBOT FACEaHUGGING FACEaSIGN OF THE HORNSaCALL ME HA",
   "NDaRAISED BACK OF HANDaLEFT-FACING FISTaRIGHT-FACING FISTaHANDSHAKEe WITH INDEX AND MIDDLE FI",
   "NGERS CROSSEDaI LOVE YOU HAND SIGNaFACE WITH COWBOY HATaCLOWN FACEaNAUSEATED FACEaROLLING ON ",
   "THE FLOOR LAUGHINGaDROOLING FACEaLYING FACEaFACE PALMaSNEEZING FACEaFACE WITH ONE EYEBROW RAI",
   "SEDaGRINNING FACE WITH STAR EYEStONE LARGE AND ONE SMALL EYEaFACE WITH FINGER COVERING CLOSED",
   " LIPSaSERIOUS FACE WITH SYMBOLS COVERING MOUTHbMILING FACE WITH SMILING EYES AND HAND COVERIN",
   "G MOUTHaFACE WITH OPEN MOUTH VOMITINGaSHOCKED FACE WITH EXPLODING HEADaPREGNANT WOMANaBREAST-",
   "FEEDINGaPALMS UP TOGETHERaSELFIEaPRINCEaMAN IN TUXEDObOTHER CHRISTMASaSHRUGaPERSON DOING CART",
   "WHEELaJUGGLINGaFENCERaMODERN PENTATHLONaWRESTLERSbATER POLOaHANDBALLaDIVING MASKaWILTED FLOWE",
   "RaDRUM WITH DRUMSTICKSaCLINKING GLASSESaTUMBLER GLASSaSPOONaGOAL NETaRIFLEaFIRST PLACE MEDALa",
   "SECOND PLACE MEDALaTHIRD PLACE MEDALaBOXING GLOVEaMARTIAL ARTS UNIFORMaCURLING STONEaLACROSSE",
   " STICK AND BALLaSOFTBALLaFLYING DISCaCROISSANTaAVOCADOaCUCUMBERaBACONaPOTATOaCARROTaBAGUETTE ",
   "BREADaGREEN SALADaSHALLOW PAN OF FOODbTUFFED FLATBREADaEGGaGLASS OF MILKaPEANUTSaKIWIFRUITaPA",
   "NCAKESaDUMPLINGaFORTUNE COOKIEaTAKEOUT BOXaCHOPSTICKSaBOWL WITH SPOONaCUP WITH STRAWbOCONUTaB",
   "ROCCOLIaPIEbRETZELaCUT OF MEATaSANDWICHaCANNED FOODaLEAFY GREENaMANGObOON CAKEaBAGELaSMILING ",
   "FACE WITH SMILING EYES AND THREE HEARTSaYAWNING FACEaSMILING FACE WITH TEARaFACE WITH PARTY H",
   "ORN AND PARTY HATkUNEVEN EYES AND WAVY MOUTHaOVERHEATED FACEaFREEZING FACEaNINJAaDISGUISED FA",
   "CEaFACE HOLDING BACK TEARSfWITH PLEADING EYESaSARIaLAB COATaGOGGLESaHIKING BOOTaFLAT SHOEaCRA",
   "BaLION FACEaSCORPIONaTURKEYaUNICORN FACEaEAGLEaDUCKaBATaSHARKaOWLaFOX FACEaBUTTERFLYaDEERaGOR",
   "ILLAaLIZARDaRHINOCEROSaSHRIMPbQUIDaGIRAFFE FACEaZEBRA FACEaHEDGEHOGaSAUROPODaT-REXaCRICKETaKA",
   "NGAROOaLLAMAaPEACOCKaHIPPOPOTAMUSaPARROTaRACCOONaLOBSTERaMOSQUITObICROBEaBADGERaSWANaMAMMOTHa",
   "DODOaSLOTHaOTTERbRANGUTANaSKUNKaFLAMINGOaOYSTERaBEAVERbISONaSEALaGUIDE DOGaPROBING CANEaEMOJI",
   " COMPONENT RED HAIRqCURLY HAIRqBALDqWHITE HAIRaBONEaLEGaFOOTaTOOTHaSUPERHEROfVILLAINbAFETY VE",
   "STaEAR WITH HEARING AIDaMOTORIZED WHEELCHAIRbANUAL WHEELCHAIRbECHANICAL ARMlLEGaCHEESE WEDGEb",
   "UPCAKEaSALT SHAKERaBEVERAGE BOXaGARLICaONIONaFALAFELaWAFFLEaBUTTERaMATE DRINKaICE CUBEaBUBBLE",
   " TEAaTROLLaSTANDING PERSONaKNEELING PERSONaDEAF PERSONaFACE WITH MONOCLEaADULTaCHILDaOLDER AD",
   "ULTaBEARDED PERSONaPERSON WITH HEADSCARFhIN STEAMY ROOMhCLIMBINGhIN LOTUS POSITIONaMAGEaFAIRY",
   "aVAMPIREaMERPERSONaELFaGENIEaZOMBIEaBRAINaORANGE HEARTaBILLED CAPaSCARFaGLOVESaCOATaSOCKSaRED",
   " GIFT ENVELOPEaFIRECRACKERaJIGSAW PUZZLE PIECEaTEST TUBEaPETRI DISHaDNA DOUBLE HELIXaCOMPASSa",
   "ABACUSaFIRE EXTINGUISHERaTOOLBOXaBRICKaMAGNETaLUGGAGEbOTION BOTTLEaSPOOL OF THREADaBALL OF YA",
   "RNaSAFETY PINaTEDDY BEARaBROOMbASKETaROLL OF PAPERaBAR OF SOAPaSPONGEaRECEIPTaNAZAR AMULETbEU",
   "TRAL CHESS KINGoQUEENoROOKoBISHOPoKNIGHToPAWNaWHITE CHESS KNIGHT ROTATED FORTY-FIVE DEGREESaB",
   "LACK CHESS KNIGHT ROTATED FORTY-FIVE DEGREESaNEUTRAL CHESS KNIGHT ROTATED FORTY-FIVE DEGREESa",
   "WHITE CHESS KING ROTATED NINETY DEGREESmQUEEN ROTATED NINETY DEGREESmROOK ROTATED NINETY DEGR",
   "EESmBISHOP ROTATED NINETY DEGREESmKNIGHT ROTATED NINETY DEGREESmPAWN ROTATED NINETY DEGREESaB",
   "LACK CHESS KING ROTATED NINETY DEGREESmQUEEN ROTATED NINETY DEGREESmROOK ROTATED NINETY DEGRE",
   "ESmBISHOP ROTATED NINETY DEGREESmKNIGHT ROTATED NINETY DEGREESmPAWN ROTATED NINETY DEGREESaNE",
   "UTRAL CHESS KING ROTATED NINETY DEGREESoQUEEN ROTATED NINETY DEGREESoROOK ROTATED NINETY DEGR",
   "EESoBISHOP ROTATED NINETY DEGREESoKNIGHT ROTATED NINETY DEGREESoPAWN ROTATED NINETY DEGREESaW",
   "HITE CHESS KNIGHT ROTATED ONE HUNDRED THIRTY-FIVE DEGREESaBLACK CHESS KNIGHT ROTATED ONE HUND",
   "RED THIRTY-FIVE DEGREESaNEUTRAL CHESS KNIGHT ROTATED ONE HUNDRED THIRTY-FIVE DEGREESaWHITE CH",
   "ESS TURNED KINGtQUEENtROOKtBISHOPtKNIGHTtPAWNaBLACK CHESS TURNED KINGtQUEENtROOKtBISHOPtKNIGH",
   "TtPAWNaNEUTRAL CHESS TURNED KINGvQUEENvROOKvBISHOPvKNIGHTvPAWNaWHITE CHESS KNIGHT ROTATED TWO",
   " HUNDRED TWENTY-FIVE DEGREESaBLACK CHESS KNIGHT ROTATED TWO HUNDRED TWENTY-FIVE DEGREESaNEUTR",
   "AL CHESS KNIGHT ROTATED TWO HUNDRED TWENTY-FIVE DEGREESaWHITE CHESS KING ROTATED TWO HUNDRED ",
   "SEVENTY DEGREESmQUEEN ROTATED TWO HUNDRED SEVENTY DEGREESmROOK ROTATED TWO HUNDRED SEVENTY DE",
   "GREESmBISHOP ROTATED TWO HUNDRED SEVENTY DEGREESmKNIGHT ROTATED TWO HUNDRED SEVENTY DEGREESmP",
   "AWN ROTATED TWO HUNDRED SEVENTY DEGREESaBLACK CHESS KING ROTATED TWO HUNDRED SEVENTY DEGREESm",
   "QUEEN ROTATED TWO HUNDRED SEVENTY DEGREESmROOK ROTATED TWO HUNDRED SEVENTY DEGREESmBISHOP ROT",
   "ATED TWO HUNDRED SEVENTY DEGREESmKNIGHT ROTATED TWO HUNDRED SEVENTY DEGREESmPAWN ROTATED TWO ",
   "HUNDRED SEVENTY DEGREESaNEUTRAL CHESS KING ROTATED TWO HUNDRED SEVENTY DEGREESoQUEEN ROTATED ",
   "TWO HUNDRED SEVENTY DEGREESoROOK ROTATED TWO HUNDRED SEVENTY DEGREESoBISHOP ROTATED TWO HUNDR",
   "ED SEVENTY DEGREESoKNIGHT ROTATED TWO HUNDRED SEVENTY DEGREESoPAWN ROTATED TWO HUNDRED SEVENT",
   "Y DEGREESaWHITE CHESS KNIGHT ROTATED THREE HUNDRED FIFTEEN DEGREESaBLACK CHESS KNIGHT ROTATED",
   " THREE HUNDRED FIFTEEN DEGREESaNEUTRAL CHESS KNIGHT ROTATED THREE HUNDRED FIFTEEN DEGREESaWHI",
   "TE CHESS EQUIHOPPERaBLACK CHESS EQUIHOPPERaNEUTRAL CHESS EQUIHOPPERaWHITE CHESS EQUIHOPPER RO",
   "TATED NINETY DEGREESaBLACK CHESS EQUIHOPPER ROTATED NINETY DEGREESaNEUTRAL CHESS EQUIHOPPER R",
   "OTATED NINETY DEGREESaWHITE CHESS KNIGHT-QUEENtROOKtBISHOPaBLACK CHESS KNIGHT-QUEENtROOKtBISH",
   "OP@129632aXIANGQI RED GENERALmMANDARINmELEPHANTmHORSEmCHARIOTnANNONmSOLDIERiBLACK GENERALoMAN",
   "DARINoELEPHANToHORSEoCHARIOTpANNONoSOLDIER@129648aBALLET SHOESaONE-PIECE SWIMSUITaBRIEFSaSHOR",
   "TSaTHONG SANDAL@129656aDROP OF BLOODaADHESIVE BANDAGEaSTETHOSCOPEaX-RAYaCRUTCH@129664aYO-YOaK",
   "ITEaPARACHUTEaBOOMERANGaMAGIC WANDaPINATAaNESTING DOLLS@129680aRINGED PLANETaCHAIRaRAZORaAXEa",
   "DIYA LAMPaBANJOaMILITARY HELMETaACCORDIONaLONG DRUMaCOINbARPENTRY SAWaSCREWDRIVERaLADDERaHOOK",
   "aMIRRORaWINDOWaPLUNGERaSEWING NEEDLEaKNOTaBUCKETaMOUSE TRAPaTOOTHBRUSHaHEADSTONEaPLACARDaROCK",
   "aMIRROR BALLaIDENTIFICATION CARDaLOW BATTERYaHAMSA@129712aFLYaWORMaBEETLEaCOCKROACHaPOTTED PL",
   "ANTaWOODaFEATHERaLOTUSaCORALaEMPTY NESTaNEST WITH EGGS@129728aANATOMICAL HEARTaLUNGSaPEOPLE H",
   "UGGINGbREGNANT MANjPERSONbERSON WITH CROWN@129744aBLUEBERRIESbELL PEPPERaOLIVEaFLATBREADaTAMA",
   "LEaFONDUEaTEAPOTaPOURING LIQUIDaBEANSaJAR@129760aMELTING FACEaSALUTING FACEaFACE WITH OPEN EY",
   "ES AND HAND OVER MOUTHkPEEKING EYEkDIAGONAL MOUTHaDOTTED LINE FACEaBITING LIPbUBBLES@129776aH",
   "AND WITH INDEX FINGER AND THUMB CROSSEDaRIGHTWARDS HANDaLEFTWARDS HANDaPALM DOWN HANDfUP HAND",
   "aINDEX POINTING AT THE VIEWERaHEART HANDS@129792aBLOCK SEXTANT-1o2o12o3o13o23o123o4o14o24o124",
   "o34o134o234o1234o5o15o25o125o35o235o1235o45o145o245o1245o345o1345o2345o12345o6o16o26o126o36o1",
   "36o236o1236o46o146p246o346o1346o2346o12346o56o156o256o1256o356o1356o2356o12356o456o1456o2456o",
   "12456o3456o13456o23456aLOWER LEFT BLOCK DIAGONAL LOWER MIDDLE LEFT TO LOWER CENTREcbRIGHTbaUP",
   "PER MIDDLE LEFT TO LOWER CENTREcbRIGHTbgLEFT TO LOWER CENTREgRIGHT BLOCK DIAGONAL UPPER MIDDL",
   "E LEFT TO UPPER CENTREccRIGHTbbLOWER MIDDLE LEFT TO UPPER CENTREccRIGHTbhLEFT TO UPPER CENTRE",
   "bhMIDDLE LEFT TO UPPER MIDDLE RIGHTbhCENTRE TO LOWER MIDDLE RIGHTbhLEFT TO LOWER MIDDLE RIGHT",
   "bhCENTRE TO UPPER MIDDLE RIGHTbhLEFT TO UPPER MIDDLE RIGHTbhCENTRE TO UPPER RIGHTgLEFT BLOCK ",
   "DIAGONAL UPPER CENTRE TO UPPER MIDDLE RIGHTbgLEFT TO UPPER MIDDLE RIGHTbgCENTRE TO LOWER MIDD",
   "LE RIGHTbgLEFT TO LOWER MIDDLE RIGHTbgCENTRE TO LOWER RIGHTbgMIDDLE LEFT TO LOWER MIDDLE RIGH",
   "TaUPPER RIGHT BLOCK DIAGONAL LOWER MIDDLE LEFT TO LOWER CENTREccRIGHTbbUPPER MIDDLE LEFT TO L",
   "OWER CENTREccRIGHTbhLEFT TO LOWER CENTREgLEFT BLOCK DIAGONAL UPPER MIDDLE LEFT TO UPPER CENTR",
   "EcbRIGHTbaLOWER MIDDLE LEFT TO UPPER CENTREcbRIGHTbgLEFT TO UPPER CENTREbgMIDDLE LEFT TO UPPE",
   "R MIDDLE RIGHTbgCENTRE TO LOWER MIDDLE RIGHTbgLEFT TO LOWER MIDDLE RIGHTbgCENTRE TO UPPER MID",
   "DLE RIGHTbgLEFT TO UPPER MIDDLE RIGHTbgCENTRE TO UPPER RIGHTgRIGHT BLOCK DIAGONAL UPPER CENTR",
   "E TO UPPER MIDDLE RIGHTbhLEFT TO UPPER MIDDLE RIGHTbhCENTRE TO LOWER MIDDLE RIGHTbhLEFT TO LO",
   "WER MIDDLE RIGHTbhCENTRE TO LOWER RIGHTbhMIDDLE LEFT TO LOWER MIDDLE RIGHTgAND RIGHT AND LOWE",
   "R TRIANGULAR THREE QUARTERS BLOCKaLEFT AND LOWER AND RIGHT TRIANGULAR THREE QUARTERS BLOCKaUP",
   "PER AND LEFT AND LOWER TRIANGULAR THREE QUARTERS BLOCKaLEFT AND UPPER AND RIGHT TRIANGULAR TH",
   "REE QUARTERS BLOCKfTRIANGULAR ONE QUARTER BLOCKaUPPER TRIANGULAR ONE QUARTER BLOCKaRIGHT TRIA",
   "NGULAR ONE QUARTER BLOCKaLOWER TRIANGULAR ONE QUARTER BLOCKaVERTICAL ONE EIGHTH BLOCK-2ba3ba4",
   "ba5ba6ba7aHORIZONTAL ONE EIGHTH BLOCK-2bc3bc4bc5bc6bc7aLEFT AND LOWER ONE EIGHTH BLOCKjUPPER ",
   "ONE EIGHTH BLOCKaRIGHT AND UPPER ONE EIGHTH BLOCKkLOWER ONE EIGHTH BLOCKaUPPER AND LOWER ONE ",
   "EIGHTH BLOCKaHORIZONTAL ONE EIGHTH BLOCK-1358aUPPER ONE QUARTER BLOCKgTHREE EIGHTHS BLOCKgFIV",
   "E EIGHTHS BLOCKgTHREE QUARTERS BLOCKgSEVEN EIGHTHS BLOCKaRIGHT ONE QUARTER BLOCKgTHREE EIGHTH",
   "S BLOCKgFIVE EIGHTHS BLOCKgTHREE QUARTERS BLOCKgSEVEN EIGHTHS BLOCKaLEFT HALF MEDIUM SHADEaRI",
   "GHT HALF MEDIUM SHADEaUPPER HALF MEDIUM SHADEaLOWER HALF MEDIUM SHADEaINVERSE MEDIUM SHADEaUP",
   "PER HALF BLOCK AND LOWER HALF INVERSE MEDIUM SHADElINVERSE MEDIUM SHADE AND LOWER HALF BLOCK@",
   "129940aLEFT HALF INVERSE MEDIUM SHADE AND RIGHT HALF BLOCKaCHECKER BOARD FILLaINVERSE CHECKER",
   " BOARD FILLaHEAVY HORIZONTAL FILLaUPPER LEFT TO LOWER RIGHT FILLgRIGHT TO LOWER LEFT FILLgAND",
   " LOWER TRIANGULAR HALF BLOCKaLEFT AND RIGHT TRIANGULAR HALF BLOCKaUPPER LEFT TRIANGULAR MEDIU",
   "M SHADEgRIGHT TRIANGULAR MEDIUM SHADEaLOWER RIGHT TRIANGULAR MEDIUM SHADEgLEFT TRIANGULAR MED",
   "IUM SHADEaBOX DRAWINGS LIGHT DIAGONAL UPPER CENTRE TO MIDDLE LEFTbzRIGHTbcMIDDLE LEFT TO LOWE",
   "R CENTREbjRIGHT TO LOWER CENTREbcUPPER CENTRE TO MIDDLE LEFT TO LOWER CENTREbzRIGHT TO LOWER ",
   "CENTREbcMIDDLE LEFT TO LOWER CENTRE TO MIDDLE RIGHTbrUPPER CENTRE TO MIDDLE RIGHTbcUPPER CENT",
   "RE TO MIDDLE LEFT AND MIDDLE RIGHT TO LOWER CENTREbzRIGHT AND MIDDLE LEFT TO LOWER CENTREcfTO",
   " LOWER CENTRE TO MIDDLE LEFTbzLEFT TO LOWER CENTRE TO MIDDLE RIGHTbcMIDDLE LEFT TO UPPER CENT",
   "RE TO MIDDLE RIGHT TO LOWER CENTREbjRIGHT TO UPPER CENTRE TO MIDDLE LEFT TO LOWER CENTREbcDIA",
   "MONDtHORIZONTAL WITH VERTICAL STROKEaARROWHEAD-SHAPED POINTERaINVERSE CHECK MARKaLEFT HALF RU",
   "NNING MANaRIGHT HALF RUNNING MANaINVERSE DOWNWARDS ARROW WITH TIP LEFTWARDSaLEFTWARDS ARROW A",
   "ND UPPER AND LOWER ONE EIGHTH BLOCKaRIGHTWARDS ARROW AND UPPER AND LOWER ONE EIGHTH BLOCKaDOW",
   "NWARDS ARROW AND RIGHT ONE EIGHTH BLOCKaUPWARDS ARROW AND RIGHT ONE EIGHTH BLOCKaLEFT HALF FO",
   "LDERaRIGHT HALF FOLDERaVOIDED GREEK CROSSaRIGHT OPEN SQUARED DOTaNEGATIVE DIAGONAL CROSSsMIDD",
   "LE RIGHT TO LOWER CENTREsDIAMONDaWHITE HEAVY SALTIRE WITH ROUNDED CORNERSaLEFT THIRD WHITE RI",
   "GHT POINTING INDEXaMIDDLE THIRD WHITE RIGHT POINTING INDEXaRIGHT THIRD WHITE RIGHT POINTING I",
   "NDEXaNEGATIVE SQUARED QUESTION MARKaSTICK FIGUREm WITH ARMS RAISEDnLEANING LEFTvRIGHTnWITH DR",
   "ESSaWHITE UP-POINTING CHEVRON@130032aSEGMENTED DIGIT ZEROqONEqTWOrHREEqFOURrIVEqSIXrEVENqEIGH",
   "TqNINE@917505aLANGUAGE TAG@917536aTAG SPACEeEXCLAMATION MARKeQUOTATION MARKeNUMBER SIGNeDOLLA",
   "R SIGNePERCENT SIGNeAMPERSANDfPOSTROPHEeLEFT PARENTHESISeRIGHT PARENTHESISeASTERISKePLUS SIGN",
   "eCOMMAeHYPHEN-MINUSeFULL STOPeSOLIDUSeDIGIT ZEROkONEkTWOlHREEkFOURlIVEkSIXlEVENkEIGHTkNINEeCO",
   "LONeSEMICOLONeLESS-THAN SIGNeEQUALS SIGNeGREATER-THAN SIGNeQUESTION MARKeCOMMERCIAL ATeLATIN ",
   "CAPITAL LETTER AzBzCzDzEzFzGzHzIzJzKzLzMzNzOzPzQzRzSzTzUzVzWzXzYzZfEFT SQUARE BRACKETeREVERSE",
   " SOLIDUSfIGHT SQUARE BRACKETeCIRCUMFLEX ACCENTeLOW LINEeGRAVE ACCENTeLATIN SMALL LETTER AxBxC",
   "xDxExFxGxHxIxJxKxLxMxNxOxPxQxRxSxTxUxVxWxXxYxZfEFT CURLY BRACKETeVERTICAL LINEeRIGHT CURLY BR",
   "ACKETeTILDEaCANCEL TAG@917760aVARIATION SELECTOR-17u8u9t20u1u2u3u4u5u6u7u8u9t30u1u2u3u4u5u6u7",
   "u8u9t40u1u2u3u4u5u6u7u8u9t50u1u2u3u4u5u6u7u8u9t60u1u2u3u4u5u6u7u8u9t70u1u2u3u4u5u6u7u8u9t80u1",
   "u2u3u4u5u6u7u8u9t90u1u2u3u4u5u6u7u8u9t100v1v2v3v4v5v6v7v8v9u10v1v2v3v4v5v6v7v8v9u20v1v2v3v4v5",
   "v6v7v8v9u30v1v2v3v4v5v6v7v8v9u40v1v2v3v4v5v6v7v8v9u50v1v2v3v4v5v6v7v8v9u60v1v2v3v4v5v6v7v8v9u",
   "70v1v2v3v4v5v6v7v8v9u80v1v2v3v4v5v6v7v8v9u90v1v2v3v4v5v6v7v8v9t200v1v2v3v4v5v6v7v8v9u10v1v2v3",
   "v4v5v6v7v8v9u20v1v2v3v4v5v6v7v8v9u30v1v2v3v4v5v6v7v8v9u40v1v2v3v4v5v6v7v8v9u50v1v2v3v4v5v6"]

end CallSites.Text.CharacterName
