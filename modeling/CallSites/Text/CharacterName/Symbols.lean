/-! # Names of symbols and further letters

The characters from U+2000 on that lie in the first plane.
-/

namespace CallSites.Text.CharacterName

/-- The names of these characters in the order of their code points, cut into lines. A number in
base ten starts a run of characters; a name starts with small letters that say, in base twenty-six,
how much of it is taken from the name before. -/
def symbols : List String :=
  ["@8192aEN QUADbM QUADbN SPACEbM SPACEaTHREE-PER-EM SPACEaFOUR-PER-EM SPACEaSIX-PER-EM SPACEaFI",
   "GURE SPACEaPUNCTUATION SPACEaTHIN SPACEaHAIR SPACEaZERO WIDTH SPACElNON-JOINERlJOINERaLEFT-TO",
   "-RIGHT MARKaRIGHT-TO-LEFT MARKaHYPHENaNON-BREAKING HYPHENaFIGURE DASHaEN DASHbM DASHaHORIZONT",
   "AL BARaDOUBLE VERTICAL LINEhLOW LINEaLEFT SINGLE QUOTATION MARKaRIGHT SINGLE QUOTATION MARKaS",
   "INGLE LOW-9 QUOTATION MARKhHIGH-REVERSED-9 QUOTATION MARKaLEFT DOUBLE QUOTATION MARKaRIGHT DO",
   "UBLE QUOTATION MARKaDOUBLE LOW-9 QUOTATION MARKhHIGH-REVERSED-9 QUOTATION MARKbAGGERbOUBLE DA",
   "GGERaBULLETaTRIANGULAR BULLETaONE DOT LEADERaTWO DOT LEADERaHORIZONTAL ELLIPSISbYPHENATION PO",
   "INTaLINE SEPARATORaPARAGRAPH SEPARATORaLEFT-TO-RIGHT EMBEDDINGaRIGHT-TO-LEFT EMBEDDINGaPOP DI",
   "RECTIONAL FORMATTINGaLEFT-TO-RIGHT OVERRIDEaRIGHT-TO-LEFT OVERRIDEaNARROW NO-BREAK SPACEaPER ",
   "MILLE SIGNeTEN THOUSAND SIGNbRIMEaDOUBLE PRIMEaTRIPLE PRIMEaREVERSED PRIMEjDOUBLE PRIMEjTRIPL",
   "E PRIMEaCARETaSINGLE LEFT-POINTING ANGLE QUOTATION MARKhRIGHT-POINTING ANGLE QUOTATION MARKaR",
   "EFERENCE MARKaDOUBLE EXCLAMATION MARKaINTERROBANGaOVERLINEaUNDERTIEaCHARACTER TIEbARET INSERT",
   "ION POINTaASTERISMaHYPHEN BULLETaFRACTION SLASHaLEFT SQUARE BRACKET WITH QUILLaRIGHT SQUARE B",
   "RACKET WITH QUILLaDOUBLE QUESTION MARKaQUESTION EXCLAMATION MARKaEXCLAMATION QUESTION MARKaTI",
   "RONIAN SIGN ETaREVERSED PILCROW SIGNaBLACK LEFTWARDS BULLETgRIGHTWARDS BULLETaLOW ASTERISKaRE",
   "VERSED SEMICOLONaCLOSE UPaTWO ASTERISKS ALIGNED VERTICALLYaCOMMERCIAL MINUS SIGNaSWUNG DASHaI",
   "NVERTED UNDERTIEaFLOWER PUNCTUATION MARKaTHREE DOT PUNCTUATIONaQUADRUPLE PRIMEaFOUR DOT PUNCT",
   "UATIONbIVE DOT PUNCTUATIONaTWO DOT PUNCTUATIONaFOUR DOT MARKaDOTTED CROSSaTRICOLONaVERTICAL F",
   "OUR DOTSaMEDIUM MATHEMATICAL SPACEaWORD JOINERaFUNCTION APPLICATIONaINVISIBLE TIMESkSEPARATOR",
   "kPLUS@8294aLEFT-TO-RIGHT ISOLATEaRIGHT-TO-LEFT ISOLATEaFIRST STRONG ISOLATEaPOP DIRECTIONAL I",
   "SOLATEaINHIBIT SYMMETRIC SWAPPINGaACTIVATE SYMMETRIC SWAPPINGaINHIBIT ARABIC FORM SHAPINGaACT",
   "IVATE ARABIC FORM SHAPINGaNATIONAL DIGIT SHAPESbOMINAL DIGIT SHAPESaSUPERSCRIPT ZEROmLATIN SM",
   "ALL LETTER I@8308mFOURnIVEmSIXnEVENmEIGHTmNINEmPLUS SIGNmMINUSmEQUALS SIGNmLEFT PARENTHESISmR",
   "IGHT PARENTHESISmLATIN SMALL LETTER NcBSCRIPT ZEROkONEkTWOlHREEkFOURlIVEkSIXlEVENkEIGHTkNINEk",
   "PLUS SIGNkMINUSkEQUALS SIGNkLEFT PARENTHESISkRIGHT PARENTHESIS@8336aLATIN SUBSCRIPT SMALL LET",
   "TER AbdEbdObdXbdSCHWAbdHbdKbdLbdMbdNbdPbdSbdT@8352aEURO-CURRENCY SIGNaCOLON SIGNbRUZEIRO SIGN",
   "aFRENCH FRANC SIGNaLIRA SIGNaMILL SIGNaNAIRA SIGNaPESETA SIGNaRUPEE SIGNaWON SIGNaNEW SHEQEL ",
   "SIGNaDONG SIGNaEURO SIGNaKIP SIGNaTUGRIK SIGNaDRACHMA SIGNaGERMAN PENNY SIGNaPESO SIGNaGUARAN",
   "I SIGNaAUSTRAL SIGNaHRYVNIA SIGNaCEDI SIGNaLIVRE TOURNOIS SIGNaSPESMILO SIGNaTENGE SIGNaINDIA",
   "N RUPEE SIGNaTURKISH LIRA SIGNaNORDIC MARK SIGNaMANAT SIGNaRUBLE SIGNaLARI SIGNaBITCOIN SIGNa",
   "SOM SIGN@8400aCOMBINING LEFT HARPOON ABOVEkRIGHT HARPOON ABOVEkLONG VERTICAL LINE OVERLAYkSHO",
   "RT VERTICAL LINE OVERLAYkANTICLOCKWISE ARROW ABOVEkCLOCKWISE ARROW ABOVEkLEFT ARROW ABOVEkRIG",
   "HT ARROW ABOVEmNG OVERLAYkCLOCKWISE RING OVERLAYkANTICLOCKWISE RING OVERLAYkTHREE DOTS ABOVEk",
   "FOUR DOTS ABOVEkENCLOSING CIRCLEuSQUAREuDIAMONDuCIRCLE BACKSLASHkLEFT RIGHT ARROW ABOVEkENCLO",
   "SING SCREENuKEYCAPuUPWARD POINTING TRIANGLEkREVERSE SOLIDUS OVERLAYkDOUBLE VERTICAL STROKE OV",
   "ERLAYkANNUITY SYMBOLkTRIPLE UNDERDOTkWIDE BRIDGE ABOVEkLEFTWARDS ARROW OVERLAYlONG DOUBLE SOL",
   "IDUS OVERLAYkRIGHTWARDS HARPOON WITH BARB DOWNWARDSkLEFTWARDS HARPOON WITH BARB DOWNWARDSo AR",
   "ROW BELOWkRIGHT ARROW BELOWkASTERISK ABOVE@8448aACCOUNT OFbDDRESSED TO THE SUBJECTaDOUBLE-STR",
   "UCK CAPITAL CbEGREE CELSIUSaCENTRE LINE SYMBOLbARE OFcDA UNAaEULER CONSTANTaSCRUPLEaDEGREE FA",
   "HRENHEITaSCRIPT SMALL GhCAPITAL HaBLACK-LETTER CAPITAL HaDOUBLE-STRUCK CAPITAL HaPLANCK CONST",
   "ANTp OVER TWO PIaSCRIPT CAPITAL IaBLACK-LETTER CAPITAL IaSCRIPT CAPITAL LhSMALL LaL B BAR SYM",
   "BOLaDOUBLE-STRUCK CAPITAL NaNUMERO SIGNaSOUND RECORDING COPYRIGHTbCRIPT CAPITAL PaDOUBLE-STRU",
   "CK CAPITAL PwQaSCRIPT CAPITAL RaBLACK-LETTER CAPITAL RaDOUBLE-STRUCK CAPITAL RaPRESCRIPTION T",
   "AKEaRESPONSEaSERVICE MARKaTELEPHONE SIGNbRADE MARK SIGNaVERSICLEaDOUBLE-STRUCK CAPITAL ZaOUNC",
   "E SIGNbHM SIGNaINVERTED OHM SIGNaBLACK-LETTER CAPITAL ZaTURNED GREEK SMALL LETTER IOTAaKELVIN",
   " SIGNaANGSTROM SIGNaSCRIPT CAPITAL BaBLACK-LETTER CAPITAL CaESTIMATED SYMBOLaSCRIPT SMALL EhC",
   "APITAL EpFaTURNED CAPITAL FaSCRIPT CAPITAL MhSMALL OaALEF SYMBOLaBET SYMBOLaGIMEL SYMBOLaDALE",
   "T SYMBOLaINFORMATION SOURCEaROTATED CAPITAL QaFACSIMILE SIGNaDOUBLE-STRUCK SMALL PIuGAMMAoCAP",
   "ITAL GAMMAwPIoN-ARY SUMMATIONaTURNED SANS-SERIF CAPITAL GbaLaREVERSED SANS-SERIF CAPITAL LaTU",
   "RNED SANS-SERIF CAPITAL YaDOUBLE-STRUCK ITALIC CAPITAL DvSMALL DbbEbbIbbJaPROPERTY LINEaTURNE",
   "D AMPERSANDaPER SIGNaAKTIESELSKABaTURNED SMALL FaSYMBOL FOR SAMARITAN SOURCEaVULGAR FRACTION ",
   "ONE SEVENTHuNINTHuTENTHvHIRDqTWO THIRDSqONE FIFTHqTWO FIFTHSrHREE FIFTHSqFOUR FIFTHSqONE SIXT",
   "HqFIVE SIXTHSqONE EIGHTHqTHREE EIGHTHSqFIVE EIGHTHSqSEVEN EIGHTHSaFRACTION NUMERATOR ONEaROMA",
   "N NUMERAL ONEoTWOpHREEoFOURpIVEoSIXpEVENoEIGHToNINEoTENoELEVENoTWELVEoFIFTYoONE HUNDREDoFIVE ",
   "HUNDREDoONE THOUSANDaSMALL ROMAN NUMERAL ONEuTWOvHREEuFOURvIVEuSIXvEVENuEIGHTuNINEuTENuELEVEN",
   "uTWELVEuFIFTYuONE HUNDREDuFIVE HUNDREDuONE THOUSANDaROMAN NUMERAL ONE THOUSAND C DoFIVE THOUS",
   "ANDoTEN THOUSANDoREVERSED ONE HUNDREDaLATIN SMALL LETTER REVERSED CaROMAN NUMERAL SIX LATE FO",
   "RMoFIFTY EARLY FORMuTHOUSANDoONE HUNDRED THOUSANDaVULGAR FRACTION ZERO THIRDSaTURNED DIGIT TW",
   "OoHREE@8592aLEFTWARDS ARROWaUPWARDS ARROWaRIGHTWARDS ARROWaDOWNWARDS ARROWaLEFT RIGHT ARROWaU",
   "P DOWN ARROWaNORTH WEST ARROWgEAST ARROWaSOUTH EAST ARROWgWEST ARROWaLEFTWARDS ARROW WITH STR",
   "OKEaRIGHTWARDS ARROW WITH STROKEaLEFTWARDS WAVE ARROWaRIGHTWARDS WAVE ARROWaLEFTWARDS TWO HEA",
   "DED ARROWaUPWARDS TWO HEADED ARROWaRIGHTWARDS TWO HEADED ARROWaDOWNWARDS TWO HEADED ARROWaLEF",
   "TWARDS ARROW WITH TAILaRIGHTWARDS ARROW WITH TAILaLEFTWARDS ARROW FROM BARaUPWARDS ARROW FROM",
   " BARaRIGHTWARDS ARROW FROM BARaDOWNWARDS ARROW FROM BARaUP DOWN ARROW WITH BASEaLEFTWARDS ARR",
   "OW WITH HOOKaRIGHTWARDS ARROW WITH HOOKaLEFTWARDS ARROW WITH LOOPaRIGHTWARDS ARROW WITH LOOPa",
   "LEFT RIGHT WAVE ARROWlARROW WITH STROKEaDOWNWARDS ZIGZAG ARROWaUPWARDS ARROW WITH TIP LEFTWAR",
   "DSxRIGHTWARDSaDOWNWARDS ARROW WITH TIP LEFTWARDSzRIGHTWARDSaRIGHTWARDS ARROW WITH CORNER DOWN",
   "WARDSaDOWNWARDS ARROW WITH CORNER LEFTWARDSaANTICLOCKWISE TOP SEMICIRCLE ARROWaCLOCKWISE TOP ",
   "SEMICIRCLE ARROWaNORTH WEST ARROW TO LONG BARaLEFTWARDS ARROW TO BAR OVER RIGHTWARDS ARROW TO",
   " BARaANTICLOCKWISE OPEN CIRCLE ARROWaCLOCKWISE OPEN CIRCLE ARROWaLEFTWARDS HARPOON WITH BARB ",
   "UPWARDSbcDOWNWARDSaUPWARDS HARPOON WITH BARB RIGHTWARDSbaLEFTWARDSaRIGHTWARDS HARPOON WITH BA",
   "RB UPWARDSbdDOWNWARDSaDOWNWARDS HARPOON WITH BARB RIGHTWARDSbcLEFTWARDSaRIGHTWARDS ARROW OVER",
   " LEFTWARDS ARROWaUPWARDS ARROW LEFTWARDS OF DOWNWARDS ARROWaLEFTWARDS ARROW OVER RIGHTWARDS A",
   "RROWkPAIRED ARROWSaUPWARDS PAIRED ARROWSaRIGHTWARDS PAIRED ARROWSaDOWNWARDS PAIRED ARROWSaLEF",
   "TWARDS HARPOON OVER RIGHTWARDS HARPOONaRIGHTWARDS HARPOON OVER LEFTWARDS HARPOONaLEFTWARDS DO",
   "UBLE ARROW WITH STROKEe RIGHT DOUBLE ARROW WITH STROKEaRIGHTWARDS DOUBLE ARROW WITH STROKEaLE",
   "FTWARDS DOUBLE ARROWaUPWARDS DOUBLE ARROWaRIGHTWARDS DOUBLE ARROWaDOWNWARDS DOUBLE ARROWaLEFT",
   " RIGHT DOUBLE ARROWaUP DOWN DOUBLE ARROWaNORTH WEST DOUBLE ARROWgEAST DOUBLE ARROWaSOUTH EAST",
   " DOUBLE ARROWgWEST DOUBLE ARROWaLEFTWARDS TRIPLE ARROWaRIGHTWARDS TRIPLE ARROWaLEFTWARDS SQUI",
   "GGLE ARROWaRIGHTWARDS SQUIGGLE ARROWaUPWARDS ARROW WITH DOUBLE STROKEaDOWNWARDS ARROW WITH DO",
   "UBLE STROKEaLEFTWARDS DASHED ARROWaUPWARDS DASHED ARROWaRIGHTWARDS DASHED ARROWaDOWNWARDS DAS",
   "HED ARROWaLEFTWARDS ARROW TO BARaRIGHTWARDS ARROW TO BARaLEFTWARDS WHITE ARROWaUPWARDS WHITE ",
   "ARROWaRIGHTWARDS WHITE ARROWaDOWNWARDS WHITE ARROWaUPWARDS WHITE ARROW FROM BARuON PEDESTALbf",
   " WITH HORIZONTAL BARblVERTICAL BARoDOUBLE ARROWba ON PEDESTALaRIGHTWARDS WHITE ARROW FROM WAL",
   "LaNORTH WEST ARROW TO CORNERaSOUTH EAST ARROW TO CORNERaUP DOWN WHITE ARROWaRIGHT ARROW WITH ",
   "SMALL CIRCLEaDOWNWARDS ARROW LEFTWARDS OF UPWARDS ARROWaTHREE RIGHTWARDS ARROWSaLEFTWARDS ARR",
   "OW WITH VERTICAL STROKEaRIGHTWARDS ARROW WITH VERTICAL STROKEaLEFT RIGHT ARROW WITH VERTICAL ",
   "STROKEeWARDS ARROW WITH DOUBLE VERTICAL STROKEaRIGHTWARDS ARROW WITH DOUBLE VERTICAL STROKEaL",
   "EFT RIGHT ARROW WITH DOUBLE VERTICAL STROKEeWARDS OPEN-HEADED ARROWaRIGHTWARDS OPEN-HEADED AR",
   "ROWaLEFT RIGHT OPEN-HEADED ARROWaFOR ALLaCOMPLEMENTaPARTIAL DIFFERENTIALaTHERE EXISTSgDOES NO",
   "T EXISTaEMPTY SETaINCREMENTaNABLAaELEMENT OFaNOT AN ELEMENT OFaSMALL ELEMENT OFaCONTAINS AS M",
   "EMBERaDOES NOT CONTAIN AS MEMBERaSMALL CONTAINS AS MEMBERaEND OF PROOFaN-ARY PRODUCTgCOPRODUC",
   "TgSUMMATIONaMINUS SIGNf-OR-PLUS SIGNaDOT PLUSbIVISION SLASHaSET MINUSaASTERISK OPERATORaRING ",
   "OPERATORaBULLET OPERATORaSQUARE ROOTaCUBE ROOTaFOURTH ROOTaPROPORTIONAL TOaINFINITYaRIGHT ANG",
   "LEaANGLEaMEASURED ANGLEaSPHERICAL ANGLEaDIVIDESbOES NOT DIVIDEaPARALLEL TOaNOT PARALLEL TOaLO",
   "GICAL ANDiORaINTERSECTIONaUNIONaINTEGRALaDOUBLE INTEGRALaTRIPLE INTEGRALaCONTOUR INTEGRALaSUR",
   "FACE INTEGRALaVOLUME INTEGRALaCLOCKWISE INTEGRALkCONTOUR INTEGRALaANTICLOCKWISE CONTOUR INTEG",
   "RALaTHEREFOREaBECAUSEaRATIOaPROPORTIONaDOT MINUSaEXCESSaGEOMETRIC PROPORTIONaHOMOTHETICaTILDE",
   " OPERATORaREVERSED TILDEaINVERTED LAZY SaSINE WAVEaWREATH PRODUCTaNOT TILDEaMINUS TILDEaASYMP",
   "TOTICALLY EQUAL TOaNOT ASYMPTOTICALLY EQUAL TOaAPPROXIMATELY EQUAL TOoBUT NOT ACTUALLY EQUAL ",
   "TOaNEITHER APPROXIMATELY NOR ACTUALLY EQUAL TOaALMOST EQUAL TOaNOT ALMOST EQUAL TOaALMOST EQU",
   "AL OR EQUAL TOaTRIPLE TILDEaALL EQUAL TOaEQUIVALENT TOaGEOMETRICALLY EQUIVALENT TOaDIFFERENCE",
   " BETWEENaAPPROACHES THE LIMITaGEOMETRICALLY EQUAL TOaAPPROXIMATELY EQUAL TO OR THE IMAGE OFaI",
   "MAGE OF OR APPROXIMATELY EQUAL TOaCOLON EQUALSaEQUALS COLONaRING IN EQUAL TOfEQUAL TOaCORRESP",
   "ONDS TOaESTIMATESbQUIANGULAR TOaSTAR EQUALSaDELTA EQUAL TOaEQUAL TO BY DEFINITIONaMEASURED BY",
   "aQUESTIONED EQUAL TOaNOT EQUAL TOaIDENTICAL TOaNOT IDENTICAL TOaSTRICTLY EQUIVALENT TOaLESS-T",
   "HAN OR EQUAL TOaGREATER-THAN OR EQUAL TOaLESS-THAN OVER EQUAL TOaGREATER-THAN OVER EQUAL TOaL",
   "ESS-THAN BUT NOT EQUAL TOaGREATER-THAN BUT NOT EQUAL TOaMUCH LESS-THANfGREATER-THANaBETWEENaN",
   "OT EQUIVALENT TOeLESS-THANeGREATER-THANbEITHER LESS-THAN NOR EQUAL TOiGREATER-THAN NOR EQUAL ",
   "TOaLESS-THAN OR EQUIVALENT TOaGREATER-THAN OR EQUIVALENT TOaNEITHER LESS-THAN NOR EQUIVALENT ",
   "TOiGREATER-THAN NOR EQUIVALENT TOaLESS-THAN OR GREATER-THANaGREATER-THAN OR LESS-THANaNEITHER",
   " LESS-THAN NOR GREATER-THANiGREATER-THAN NOR LESS-THANaPRECEDESaSUCCEEDSaPRECEDES OR EQUAL TO",
   "aSUCCEEDS OR EQUAL TOaPRECEDES OR EQUIVALENT TOaSUCCEEDS OR EQUIVALENT TOaDOES NOT PRECEDEjSU",
   "CCEEDaSUBSET OFcPERSET OFaNOT A SUBSET OFiPERSET OFaSUBSET OF OR EQUAL TOcPERSET OF OR EQUAL ",
   "TOaNEITHER A SUBSET OF NOR EQUAL TOmPERSET OF NOR EQUAL TOaSUBSET OF WITH NOT EQUAL TOcPERSET",
   " OF WITH NOT EQUAL TOaMULTISETi MULTIPLICATIONjUNIONaSQUARE IMAGE OFhORIGINAL OFhIMAGE OF OR ",
   "EQUAL TOhORIGINAL OF OR EQUAL TOhCAPiUPaCIRCLED PLUSiMINUSiTIMESiDIVISION SLASHjOT OPERATORiR",
   "ING OPERATORiASTERISK OPERATORiEQUALSiDASHaSQUARED PLUSiMINUSiTIMESiDOT OPERATORaRIGHT TACKaL",
   "EFT TACKaDOWN TACKaUP TACKaASSERTIONaMODELSaTRUEaFORCESaTRIPLE VERTICAL BAR RIGHT TURNSTILEaD",
   "OUBLE VERTICAL BAR DOUBLE RIGHT TURNSTILEcES NOT PROVEaNOT TRUEaDOES NOT FORCEaNEGATED DOUBLE",
   " VERTICAL BAR DOUBLE RIGHT TURNSTILEaPRECEDES UNDER RELATIONaSUCCEEDS UNDER RELATIONaNORMAL S",
   "UBGROUP OFaCONTAINS AS NORMAL SUBGROUPaNORMAL SUBGROUP OF OR EQUAL TOaCONTAINS AS NORMAL SUBG",
   "ROUP OR EQUAL TOaORIGINAL OFaIMAGE OFaMULTIMAPaHERMITIAN CONJUGATE MATRIXaINTERCALATEaXORaNAN",
   "DbORaRIGHT ANGLE WITH ARCgTRIANGLEaN-ARY LOGICAL ANDoORgINTERSECTIONgUNIONaDIAMOND OPERATORbO",
   "T OPERATORaSTAR OPERATORaDIVISION TIMESaBOWTIEaLEFT NORMAL FACTOR SEMIDIRECT PRODUCTaRIGHT NO",
   "RMAL FACTOR SEMIDIRECT PRODUCTaLEFT SEMIDIRECT PRODUCTaRIGHT SEMIDIRECT PRODUCTbEVERSED TILDE",
   " EQUALSaCURLY LOGICAL ORoANDaDOUBLE SUBSETjPERSEThINTERSECTIONhUNIONaPITCHFORKaEQUAL AND PARA",
   "LLEL TOaLESS-THAN WITH DOTaGREATER-THAN WITH DOTaVERY MUCH LESS-THANkGREATER-THANaLESS-THAN E",
   "QUAL TO OR GREATER-THANaGREATER-THAN EQUAL TO OR LESS-THANaEQUAL TO OR LESS-THANmGREATER-THAN",
   "mPRECEDESmSUCCEEDSaDOES NOT PRECEDE OR EQUALjSUCCEED OR EQUALaNOT SQUARE IMAGE OF OR EQUAL TO",
   "lORIGINAL OF OR EQUAL TOaSQUARE IMAGE OF OR NOT EQUAL TOhORIGINAL OF OR NOT EQUAL TOaLESS-THA",
   "N BUT NOT EQUIVALENT TOaGREATER-THAN BUT NOT EQUIVALENT TOaPRECEDES BUT NOT EQUIVALENT TOaSUC",
   "CEEDS BUT NOT EQUIVALENT TOaNOT NORMAL SUBGROUP OFaDOES NOT CONTAIN AS NORMAL SUBGROUPaNOT NO",
   "RMAL SUBGROUP OF OR EQUAL TOaDOES NOT CONTAIN AS NORMAL SUBGROUP OR EQUALaVERTICAL ELLIPSISaM",
   "IDLINE HORIZONTAL ELLIPSISaUP RIGHT DIAGONAL ELLIPSISaDOWN RIGHT DIAGONAL ELLIPSISaELEMENT OF",
   " WITH LONG HORIZONTAL STROKEqVERTICAL BAR AT END OF HORIZONTAL STROKEaSMALL ELEMENT OF WITH V",
   "ERTICAL BAR AT END OF HORIZONTAL STROKEaELEMENT OF WITH DOT ABOVEqOVERBARaSMALL ELEMENT OF WI",
   "TH OVERBARaELEMENT OF WITH UNDERBARqTWO HORIZONTAL STROKESaCONTAINS WITH LONG HORIZONTAL STRO",
   "KEoVERTICAL BAR AT END OF HORIZONTAL STROKEaSMALL CONTAINS WITH VERTICAL BAR AT END OF HORIZO",
   "NTAL STROKEaCONTAINS WITH OVERBARaSMALL CONTAINS WITH OVERBARaZ NOTATION BAG MEMBERSHIPaDIAME",
   "TER SIGNaELECTRIC ARROWaHOUSEaUP ARROWHEADaDOWN ARROWHEADaPROJECTIVEbERSPECTIVEaWAVY LINEaLEF",
   "T CEILINGaRIGHT CEILINGaLEFT FLOORaRIGHT FLOORaBOTTOM RIGHT CROPhLEFT CROPaTOP RIGHT CROPeLEF",
   "T CROPaREVERSED NOT SIGNaSQUARE LOZENGEaARCaSEGMENTcCTORaTELEPHONE RECORDERaPOSITION INDICATO",
   "RaVIEWDATA SQUAREaPLACE OF INTEREST SIGNaTURNED NOT SIGNaWATCHaHOURGLASSaTOP LEFT CORNEReRIGH",
   "T CORNERaBOTTOM LEFT CORNERhRIGHT CORNERaTOP HALF INTEGRALaBOTTOM HALF INTEGRALaFROWNaSMILEaU",
   "P ARROWHEAD BETWEEN TWO HORIZONTAL BARSaOPTION KEYaERASE TO THE RIGHTaX IN A RECTANGLE BOXaKE",
   "YBOARDaLEFT-POINTING ANGLE BRACKETaRIGHT-POINTING ANGLE BRACKETaERASE TO THE LEFTaBENZENE RIN",
   "GaCYLINDRICITYaALL AROUND-PROFILEaSYMMETRYaTOTAL RUNOUTaDIMENSION ORIGINaCONICAL TAPERaSLOPEa",
   "COUNTERBOREhSINKaAPL FUNCTIONAL SYMBOL I-BEAMwSQUISH QUADwQUAD EQUALbbDIVIDEbdAMONDbbJOTbbCIR",
   "CLEwCIRCLE STILEbdJOTwSLASH BARwBACKSLASH BARwQUAD SLASHbbBACKSLASHbbLESS-THANbbGREATER-THANw",
   "LEFTWARDS VANEwRIGHTWARDS VANEwQUAD LEFTWARDS ARROWbbRIGHTWARDS ARROWwCIRCLE BACKSLASHwDOWN T",
   "ACK UNDERBARxELTA STILEwQUAD DOWN CARETbcELTAwDOWN TACK JOTwUPWARDS VANEwQUAD UPWARDS ARROWwU",
   "P TACK OVERBARwDEL STILEwQUAD UP CARETbbDELwUP TACK JOTwDOWNWARDS VANEwQUAD DOWNWARDS ARROWyO",
   "TE UNDERBARwDELTA UNDERBARxIAMOND UNDERBARwJOT UNDERBARwCIRCLE UNDERBARwUP SHOE JOTwQUOTE QUA",
   "DwCIRCLE STARwQUAD COLONwUP TACK DIAERESISwDEL DIAERESISwSTAR DIAERESISwJOT DIAERESISwCIRCLE ",
   "DIAERESISwDOWN SHOE STILEwLEFT SHOE STILEwTILDE DIAERESISwGREATER-THAN DIAERESISwCOMMA BARwDE",
   "L TILDEwZILDEwSTILE TILDExEMICOLON UNDERBARwQUAD NOT EQUALbbQUESTIONwDOWN CARET TILDEwUP CARE",
   "T TILDEwIOTAwRHOwOMEGAwALPHA UNDERBARwEPSILON UNDERBARwIOTA UNDERBARwOMEGA UNDERBARwALPHAaNOT",
   " CHECK MARKaRIGHT ANGLE WITH DOWNWARDS ZIGZAG ARROWaSHOULDERED OPEN BOXaBELL SYMBOLaVERTICAL ",
   "LINE WITH MIDDLE DOTaINSERTION SYMBOLaCONTINUOUS UNDERLINE SYMBOLaDISCONTINUOUS UNDERLINE SYM",
   "BOLaEMPHASIS SYMBOLaCOMPOSITION SYMBOLaWHITE SQUARE WITH CENTRE VERTICAL LINEaENTER SYMBOLaAL",
   "TERNATIVE KEY SYMBOLaHELM SYMBOLaCIRCLED HORIZONTAL BAR WITH NOTCHiTRIANGLE DOWNaBROKEN CIRCL",
   "E WITH NORTHWEST ARROWaUNDO SYMBOLaMONOSTABLE SYMBOLaHYSTERESIS SYMBOLaOPEN-CIRCUIT-OUTPUT H-",
   "TYPE SYMBOLuL-TYPE SYMBOLaPASSIVE-PULL-DOWN-OUTPUT SYMBOLnUP-OUTPUT SYMBOLaDIRECT CURRENT SYM",
   "BOL FORM TWOaSOFTWARE-FUNCTION SYMBOLaAPL FUNCTIONAL SYMBOL QUADaDECIMAL SEPARATOR KEY SYMBOL",
   "aPREVIOUS PAGEaNEXT PAGEaPRINT SCREEN SYMBOLaCLEAR SCREEN SYMBOLaLEFT PARENTHESIS UPPER HOOKr",
   "EXTENSIONrLOWER HOOKaRIGHT PARENTHESIS UPPER HOOKsEXTENSIONsLOWER HOOKaLEFT SQUARE BRACKET UP",
   "PER CORNERuEXTENSIONuLOWER CORNERaRIGHT SQUARE BRACKET UPPER CORNERvEXTENSIONvLOWER CORNERaLE",
   "FT CURLY BRACKET UPPER HOOKtMIDDLE PIECEtLOWER HOOKaCURLY BRACKET EXTENSIONaRIGHT CURLY BRACK",
   "ET UPPER HOOKuMIDDLE PIECEuLOWER HOOKaINTEGRAL EXTENSIONaHORIZONTAL LINE EXTENSIONaUPPER LEFT",
   " OR LOWER RIGHT CURLY BRACKET SECTIONgRIGHT OR LOWER LEFT CURLY BRACKET SECTIONaSUMMATION TOP",
   "kBOTTOMaTOP SQUARE BRACKETaBOTTOM SQUARE BRACKETv OVER TOP SQUARE BRACKETaRADICAL SYMBOL BOTT",
   "OMaLEFT VERTICAL BOX LINEaRIGHT VERTICAL BOX LINEaHORIZONTAL SCAN LINE-1v3v7v9aDENTISTRY SYMB",
   "OL LIGHT VERTICAL AND TOP RIGHTbkBOTTOM RIGHTbgWITH CIRCLExDOWN AND HORIZONTAL WITH CIRCLExUP",
   " AND HORIZONTAL WITH CIRCLExVERTICAL WITH TRIANGLExDOWN AND HORIZONTAL WITH TRIANGLExUP AND H",
   "ORIZONTAL WITH TRIANGLExVERTICAL AND WAVExDOWN AND HORIZONTAL WITH WAVExUP AND HORIZONTAL WIT",
   "H WAVExDOWN AND HORIZONTALxUP AND HORIZONTALxVERTICAL AND TOP LEFTbkBOTTOM LEFTaSQUARE FOOTaR",
   "ETURN SYMBOLaEJECT SYMBOLaVERTICAL LINE EXTENSIONaMETRICAL BREVEjLONG OVER SHORTjSHORT OVER L",
   "ONGjLONG OVER TWO SHORTSjTWO SHORTS OVER LONGuJOINEDkRISEMEkETRASEMEjPENTASEMEaEARTH GROUNDaF",
   "USEaTOP PARENTHESISaBOTTOM PARENTHESISaTOP CURLY BRACKETaBOTTOM CURLY BRACKETaTOP TORTOISE SH",
   "ELL BRACKETaBOTTOM TORTOISE SHELL BRACKETaWHITE TRAPEZIUMaBENZENE RING WITH CIRCLEaSTRAIGHTNE",
   "SSaFLATNESSaAC CURRENTaELECTRICAL INTERSECTIONaDECIMAL EXPONENT SYMBOLaBLACK RIGHT-POINTING D",
   "OUBLE TRIANGLEgLEFT-POINTING DOUBLE TRIANGLEgUP-POINTING DOUBLE TRIANGLEgDOWN-POINTING DOUBLE",
   " TRIANGLEgRIGHT-POINTING DOUBLE TRIANGLE WITH VERTICAL BARgLEFT-POINTING DOUBLE TRIANGLE WITH",
   " VERTICAL BARgRIGHT-POINTING TRIANGLE WITH DOUBLE VERTICAL BARaALARM CLOCKaSTOPWATCHaTIMER CL",
   "OCKaHOURGLASS WITH FLOWING SANDaBLACK MEDIUM LEFT-POINTING TRIANGLEnRIGHT-POINTING TRIANGLEnU",
   "P-POINTING TRIANGLEnDOWN-POINTING TRIANGLEaDOUBLE VERTICAL BARaBLACK SQUARE FOR STOPgCIRCLE F",
   "OR RECORDaPOWER SYMBOLgON-OFF SYMBOLi SYMBOLgSLEEP SYMBOLaOBSERVER EYE SYMBOLaSYMBOL FOR NULL",
   "lSTART OF HEADINGuTEXTlEND OF TEXTtRANSMISSIONnQUIRYlACKNOWLEDGElBELLmACKSPACElHORIZONTAL TAB",
   "ULATIONlLINE FEEDlVERTICAL TABULATIONlFORM FEEDlCARRIAGE RETURNlSHIFT OUTrINlDATA LINK ESCAPE",
   "mEVICE CONTROL ONEbaTWObbHREEbaFOURlNEGATIVE ACKNOWLEDGElSYNCHRONOUS IDLElEND OF TRANSMISSION",
   " BLOCKlCANCELlEND OF MEDIUMlSUBSTITUTElESCAPElFILE SEPARATORlGROUP SEPARATORlRECORD SEPARATOR",
   "lUNIT SEPARATORlSPACElDELETEaBLANK SYMBOLaOPEN BOXaSYMBOL FOR NEWLINElDELETE FORM TWOlSUBSTIT",
   "UTE FORM TWO@9280aOCR HOOKeCHAIReFORKeINVERTED FORKeBELT BUCKLEfOW TIEfRANCH BANK IDENTIFICAT",
   "IONeAMOUNT OF CHECKeDASHeCUSTOMER ACCOUNT NUMBEReDOUBLE BACKSLASH@9312aCIRCLED DIGIT ONEoTWOp",
   "HREEoFOURpIVEoSIXpEVENoEIGHToNINEiNUMBER TENpELEVENpTWELVEqHIRTEENpFOURTEENqIFTEENpSIXTEENqEV",
   "ENTEENpEIGHTEENpNINETEENpTWENTYaPARENTHESIZED DIGIT ONEuTWOvHREEuFOURvIVEuSIXvEVENuEIGHTuNINE",
   "oNUMBER TENvELEVENvTWELVEwHIRTEENvFOURTEENwIFTEENvSIXTEENwEVENTEENvEIGHTEENvNINETEENvTWENTYaD",
   "IGIT ONE FULL STOPgTWO FULL STOPhHREE FULL STOPgFOUR FULL STOPhIVE FULL STOPgSIX FULL STOPhEV",
   "EN FULL STOPgEIGHT FULL STOPgNINE FULL STOPaNUMBER TEN FULL STOPhELEVEN FULL STOPhTWELVE FULL",
   " STOPiHIRTEEN FULL STOPhFOURTEEN FULL STOPiIFTEEN FULL STOPhSIXTEEN FULL STOPiEVENTEEN FULL S",
   "TOPhEIGHTEEN FULL STOPhNINETEEN FULL STOPhTWENTY FULL STOPaPARENTHESIZED LATIN SMALL LETTER A",
   "bhBbhCbhDbhEbhFbhGbhHbhIbhJbhKbhLbhMbhNbhObhPbhQbhRbhSbhTbhUbhVbhWbhXbhYbhZaCIRCLED LATIN CAP",
   "ITAL LETTER AbdBbdCbdDbdEbdFbdGbdHbdIbdJbdKbdLbdMbdNbdObdPbdQbdRbdSbdTbdUbdVbdWbdXbdYbdZoSMAL",
   "L LETTER AbbBbbCbbDbbEbbFbbGbbHbbIbbJbbKbbLbbMbbNbbObbPbbQbbRbbSbbTbbUbbVbbWbbXbbYbbZiDIGIT Z",
   "EROaNEGATIVE CIRCLED NUMBER ELEVENyTWELVEzHIRTEENyFOURTEENzIFTEENySIXTEENzEVENTEENyEIGHTEENyN",
   "INETEENyTWENTYaDOUBLE CIRCLED DIGIT ONEvTWOwHREEvFOURwIVEvSIXwEVENvEIGHTvNINEpNUMBER TENaNEGA",
   "TIVE CIRCLED DIGIT ZEROaBOX DRAWINGS LIGHT HORIZONTALnHEAVY HORIZONTALnLIGHT VERTICALnHEAVY V",
   "ERTICALnLIGHT TRIPLE DASH HORIZONTALnHEAVY TRIPLE DASH HORIZONTALnLIGHT TRIPLE DASH VERTICALn",
   "HEAVY TRIPLE DASH VERTICALnLIGHT QUADRUPLE DASH HORIZONTALnHEAVY QUADRUPLE DASH HORIZONTALnLI",
   "GHT QUADRUPLE DASH VERTICALnHEAVY QUADRUPLE DASH VERTICALnLIGHT DOWN AND RIGHTnDOWN LIGHT AND",
   " RIGHT HEAVYsHEAVY AND RIGHT LIGHTnHEAVY DOWN AND RIGHTnLIGHT DOWN AND LEFTnDOWN LIGHT AND LE",
   "FT HEAVYsHEAVY AND LEFT LIGHTnHEAVY DOWN AND LEFTnLIGHT UP AND RIGHTnUP LIGHT AND RIGHT HEAVY",
   "qHEAVY AND RIGHT LIGHTnHEAVY UP AND RIGHTnLIGHT UP AND LEFTnUP LIGHT AND LEFT HEAVYqHEAVY AND",
   " LEFT LIGHTnHEAVY UP AND LEFTnLIGHT VERTICAL AND RIGHTnVERTICAL LIGHT AND RIGHT HEAVYnUP HEAV",
   "Y AND RIGHT DOWN LIGHTnDOWN HEAVY AND RIGHT UP LIGHTnVERTICAL HEAVY AND RIGHT LIGHTnDOWN LIGH",
   "T AND RIGHT UP HEAVYnUP LIGHT AND RIGHT DOWN HEAVYnHEAVY VERTICAL AND RIGHTnLIGHT VERTICAL AN",
   "D LEFTnVERTICAL LIGHT AND LEFT HEAVYnUP HEAVY AND LEFT DOWN LIGHTnDOWN HEAVY AND LEFT UP LIGH",
   "TnVERTICAL HEAVY AND LEFT LIGHTnDOWN LIGHT AND LEFT UP HEAVYnUP LIGHT AND LEFT DOWN HEAVYnHEA",
   "VY VERTICAL AND LEFTnLIGHT DOWN AND HORIZONTALoEFT HEAVY AND RIGHT DOWN LIGHTnRIGHT HEAVY AND",
   " LEFT DOWN LIGHTnDOWN LIGHT AND HORIZONTAL HEAVYsHEAVY AND HORIZONTAL LIGHTnRIGHT LIGHT AND L",
   "EFT DOWN HEAVYnLEFT LIGHT AND RIGHT DOWN HEAVYnHEAVY DOWN AND HORIZONTALnLIGHT UP AND HORIZON",
   "TALoEFT HEAVY AND RIGHT UP LIGHTnRIGHT HEAVY AND LEFT UP LIGHTnUP LIGHT AND HORIZONTAL HEAVYq",
   "HEAVY AND HORIZONTAL LIGHTnRIGHT LIGHT AND LEFT UP HEAVYnLEFT LIGHT AND RIGHT UP HEAVYnHEAVY ",
   "UP AND HORIZONTALnLIGHT VERTICAL AND HORIZONTALoEFT HEAVY AND RIGHT VERTICAL LIGHTnRIGHT HEAV",
   "Y AND LEFT VERTICAL LIGHTnVERTICAL LIGHT AND HORIZONTAL HEAVYnUP HEAVY AND DOWN HORIZONTAL LI",
   "GHTnDOWN HEAVY AND UP HORIZONTAL LIGHTnVERTICAL HEAVY AND HORIZONTAL LIGHTnLEFT UP HEAVY AND ",
   "RIGHT DOWN LIGHTnRIGHT UP HEAVY AND LEFT DOWN LIGHTnLEFT DOWN HEAVY AND RIGHT UP LIGHTnRIGHT ",
   "DOWN HEAVY AND LEFT UP LIGHTnDOWN LIGHT AND UP HORIZONTAL HEAVYnUP LIGHT AND DOWN HORIZONTAL ",
   "HEAVYnRIGHT LIGHT AND LEFT VERTICAL HEAVYnLEFT LIGHT AND RIGHT VERTICAL HEAVYnHEAVY VERTICAL ",
   "AND HORIZONTALnLIGHT DOUBLE DASH HORIZONTALnHEAVY DOUBLE DASH HORIZONTALnLIGHT DOUBLE DASH VE",
   "RTICALnHEAVY DOUBLE DASH VERTICALnDOUBLE HORIZONTALuVERTICALpWN SINGLE AND RIGHT DOUBLEsDOUBL",
   "E AND RIGHT SINGLEpUBLE DOWN AND RIGHTpWN SINGLE AND LEFT DOUBLEsDOUBLE AND LEFT SINGLEpUBLE ",
   "DOWN AND LEFTnUP SINGLE AND RIGHT DOUBLEqDOUBLE AND RIGHT SINGLEnDOUBLE UP AND RIGHTnUP SINGL",
   "E AND LEFT DOUBLEqDOUBLE AND LEFT SINGLEnDOUBLE UP AND LEFTnVERTICAL SINGLE AND RIGHT DOUBLEw",
   "DOUBLE AND RIGHT SINGLEnDOUBLE VERTICAL AND RIGHTnVERTICAL SINGLE AND LEFT DOUBLEwDOUBLE AND ",
   "LEFT SINGLEnDOUBLE VERTICAL AND LEFTpWN SINGLE AND HORIZONTAL DOUBLEsDOUBLE AND HORIZONTAL SI",
   "NGLEpUBLE DOWN AND HORIZONTALnUP SINGLE AND HORIZONTAL DOUBLEqDOUBLE AND HORIZONTAL SINGLEnDO",
   "UBLE UP AND HORIZONTALnVERTICAL SINGLE AND HORIZONTAL DOUBLEwDOUBLE AND HORIZONTAL SINGLEnDOU",
   "BLE VERTICAL AND HORIZONTALnLIGHT ARC DOWN AND RIGHTbgLEFTxUP AND LEFTbeRIGHTtDIAGONAL UPPER ",
   "RIGHT TO LOWER LEFTbiLEFT TO LOWER RIGHTbcCROSStLEFTtUPtRIGHTtDOWNnHEAVY LEFTtUPtRIGHTtDOWNnL",
   "IGHT LEFT AND HEAVY RIGHTtUP AND HEAVY DOWNnHEAVY LEFT AND LIGHT RIGHTtUP AND LIGHT DOWNaUPPE",
   "R HALF BLOCKaLOWER ONE EIGHTH BLOCKkQUARTER BLOCKgTHREE EIGHTHS BLOCKgHALF BLOCKgFIVE EIGHTHS",
   " BLOCKgTHREE QUARTERS BLOCKgSEVEN EIGHTHS BLOCKaFULL BLOCKaLEFT SEVEN EIGHTHS BLOCKfTHREE QUA",
   "RTERS BLOCKfFIVE EIGHTHS BLOCKfHALF BLOCKfTHREE EIGHTHS BLOCKfONE QUARTER BLOCKjEIGHTH BLOCKa",
   "RIGHT HALF BLOCKaLIGHT SHADEaMEDIUM SHADEaDARK SHADEaUPPER ONE EIGHTH BLOCKaRIGHT ONE EIGHTH ",
   "BLOCKaQUADRANT LOWER LEFTpRIGHTjUPPER LEFTt AND LOWER LEFT AND LOWER RIGHTbeRIGHTyUPPER RIGHT",
   " AND LOWER LEFTbuRIGHTpRIGHTu AND LOWER LEFTbj AND LOWER RIGHTaBLACK SQUAREaWHITE SQUAREm WIT",
   "H ROUNDED CORNERSnCONTAINING BLACK SMALL SQUAREaSQUARE WITH HORIZONTAL FILLmVERTICAL FILLmORT",
   "HOGONAL CROSSHATCH FILLmUPPER LEFT TO LOWER RIGHT FILLsRIGHT TO LOWER LEFT FILLmDIAGONAL CROS",
   "SHATCH FILLaBLACK SMALL SQUAREaWHITE SMALL SQUAREaBLACK RECTANGLEaWHITE RECTANGLEaBLACK VERTI",
   "CAL RECTANGLEaWHITE VERTICAL RECTANGLEaBLACK PARALLELOGRAMaWHITE PARALLELOGRAMaBLACK UP-POINT",
   "ING TRIANGLEaWHITE UP-POINTING TRIANGLEaBLACK UP-POINTING SMALL TRIANGLEaWHITE UP-POINTING SM",
   "ALL TRIANGLEaBLACK RIGHT-POINTING TRIANGLEaWHITE RIGHT-POINTING TRIANGLEaBLACK RIGHT-POINTING",
   " SMALL TRIANGLEaWHITE RIGHT-POINTING SMALL TRIANGLEaBLACK RIGHT-POINTING POINTERaWHITE RIGHT-",
   "POINTING POINTERaBLACK DOWN-POINTING TRIANGLEaWHITE DOWN-POINTING TRIANGLEaBLACK DOWN-POINTIN",
   "G SMALL TRIANGLEaWHITE DOWN-POINTING SMALL TRIANGLEaBLACK LEFT-POINTING TRIANGLEaWHITE LEFT-P",
   "OINTING TRIANGLEaBLACK LEFT-POINTING SMALL TRIANGLEaWHITE LEFT-POINTING SMALL TRIANGLEaBLACK ",
   "LEFT-POINTING POINTERaWHITE LEFT-POINTING POINTERaBLACK DIAMONDaWHITE DIAMONDn CONTAINING BLA",
   "CK SMALL DIAMONDaFISHEYEaLOZENGEaWHITE CIRCLEaDOTTED CIRCLEaCIRCLE WITH VERTICAL FILLaBULLSEY",
   "EbLACK CIRCLEaCIRCLE WITH LEFT HALF BLACKmRIGHT HALF BLACKmLOWER HALF BLACKmUPPER HALF BLACKs",
   "RIGHT QUADRANT BLACKmALL BUT UPPER LEFT QUADRANT BLACKaLEFT HALF BLACK CIRCLEaRIGHT HALF BLAC",
   "K CIRCLEaINVERSE BULLETiWHITE CIRCLEaUPPER HALF INVERSE WHITE CIRCLEaLOWER HALF INVERSE WHITE",
   " CIRCLEaUPPER LEFT QUADRANT CIRCULAR ARCgRIGHT QUADRANT CIRCULAR ARCaLOWER RIGHT QUADRANT CIR",
   "CULAR ARCgLEFT QUADRANT CIRCULAR ARCaUPPER HALF CIRCLEaLOWER HALF CIRCLEaBLACK LOWER RIGHT TR",
   "IANGLEmLEFT TRIANGLEgUPPER LEFT TRIANGLEmRIGHT TRIANGLEaWHITE BULLETaSQUARE WITH LEFT HALF BL",
   "ACKmRIGHT HALF BLACKmUPPER LEFT DIAGONAL HALF BLACKmLOWER RIGHT DIAGONAL HALF BLACKaWHITE SQU",
   "ARE WITH VERTICAL BISECTING LINEgUP-POINTING TRIANGLE WITH DOTaUP-POINTING TRIANGLE WITH LEFT",
   " HALF BLACKbaRIGHT HALF BLACKaLARGE CIRCLEaWHITE SQUARE WITH UPPER LEFT QUADRANTsLOWER LEFT Q",
   "UADRANTyRIGHT QUADRANTsUPPER RIGHT QUADRANTgCIRCLE WITH UPPER LEFT QUADRANTsLOWER LEFT QUADRA",
   "NTyRIGHT QUADRANTsUPPER RIGHT QUADRANTaUPPER LEFT TRIANGLEgRIGHT TRIANGLEaLOWER LEFT TRIANGLE",
   "aWHITE MEDIUM SQUAREaBLACK MEDIUM SQUAREaWHITE MEDIUM SMALL SQUAREaBLACK MEDIUM SMALL SQUAREa",
   "LOWER RIGHT TRIANGLEaBLACK SUN WITH RAYSaCLOUDaUMBRELLAaSNOWMANaCOMETaBLACK STARaWHITE STARaL",
   "IGHTNINGaTHUNDERSTORMaSUNaASCENDING NODEaDESCENDING NODEaCONJUNCTIONaOPPOSITIONaBLACK TELEPHO",
   "NEaWHITE TELEPHONEaBALLOT BOXk WITH CHECKqXaSALTIREaUMBRELLA WITH RAIN DROPSaHOT BEVERAGEaWHI",
   "TE SHOGI PIECEaBLACK SHOGI PIECEaSHAMROCKaREVERSED ROTATED FLORAL HEART BULLETaBLACK LEFT POI",
   "NTING INDEXgRIGHT POINTING INDEXaWHITE LEFT POINTING INDEXgUP POINTING INDEXgRIGHT POINTING I",
   "NDEXgDOWN POINTING INDEXaSKULL AND CROSSBONESaCAUTION SIGNaRADIOACTIVE SIGNaBIOHAZARD SIGNaCA",
   "DUCEUSaANKHaORTHODOX CROSSaCHI RHObROSS OF LORRAINEjJERUSALEMaSTAR AND CRESCENTaFARSI SYMBOLa",
   "ADI SHAKTIaHAMMER AND SICKLEaPEACE SYMBOLaYIN YANGaTRIGRAM FOR HEAVENmLAKEmFIREmTHUNDERmWINDn",
   "ATERmMOUNTAINmEARTHaWHEEL OF DHARMAcITE FROWNING FACEgSMILING FACEaBLACK SMILING FACEaWHITE S",
   "UN WITH RAYSaFIRST QUARTER MOONaLAST QUARTER MOONaMERCURYaFEMALE SIGNaEARTHaMALE SIGNaJUPITER",
   "aSATURNaURANUSaNEPTUNEaPLUTOaARIESaTAURUSaGEMINIaCANCERaLEOaVIRGOaLIBRAaSCORPIUSbAGITTARIUSaC",
   "APRICORNaAQUARIUSaPISCESaWHITE CHESS KINGmQUEENmROOKmBISHOPmKNIGHTmPAWNaBLACK CHESS KINGmQUEE",
   "NmROOKmBISHOPmKNIGHTmPAWNgSPADE SUITaWHITE HEART SUITgDIAMOND SUITaBLACK CLUB SUITaWHITE SPAD",
   "E SUITaBLACK HEART SUITgDIAMOND SUITaWHITE CLUB SUITaHOT SPRINGSaQUARTER NOTEaEIGHTH NOTEaBEA",
   "MED EIGHTH NOTEShSIXTEENTH NOTESaMUSIC FLAT SIGNgNATURAL SIGNgSHARP SIGNaWEST SYRIAC CROSSaEA",
   "ST SYRIAC CROSSaUNIVERSAL RECYCLING SYMBOLaRECYCLING SYMBOL FOR TYPE-1 PLASTICSba2 PLASTICSba",
   "3 PLASTICSba4 PLASTICSba5 PLASTICSba6 PLASTICSba7 PLASTICSvGENERIC MATERIALSaBLACK UNIVERSAL ",
   "RECYCLING SYMBOLaRECYCLED PAPER SYMBOLaPARTIALLY-RECYCLED PAPER SYMBOLbERMANENT PAPER SIGNaWH",
   "EELCHAIR SYMBOLaDIE FACE-1j2j3j4j5j6aWHITE CIRCLE WITH DOT RIGHTsTWO DOTSaBLACK CIRCLE WITH W",
   "HITE DOT RIGHTsTWO WHITE DOTSaMONOGRAM FOR YANGoINaDIGRAM FOR GREATER YANGlLESSER YINtANGlGRE",
   "ATER YINaWHITE FLAGaBLACK FLAGaHAMMER AND PICKaANCHORaCROSSED SWORDSaSTAFF OF AESCULAPIUSbCAL",
   "ESaALEMBICaFLOWERaGEARaSTAFF OF HERMESaATOM SYMBOLaFLEUR-DE-LISaOUTLINED WHITE STARaTHREE LIN",
   "ES CONVERGING RIGHTxLEFTaWARNING SIGNaHIGH VOLTAGE SIGNaDOUBLED FEMALE SIGNiMALE SIGNaINTERLO",
   "CKED FEMALE AND MALE SIGNaMALE AND FEMALE SIGNfWITH STROKE SIGNrAND MALE AND FEMALE SIGNaVERT",
   "ICAL MALE WITH STROKE SIGNaHORIZONTAL MALE WITH STROKE SIGNaMEDIUM WHITE CIRCLEhBLACK CIRCLEh",
   "SMALL WHITE CIRCLEbARRIAGE SYMBOLaDIVORCE SYMBOLaUNMARRIED PARTNERSHIP SYMBOLaCOFFINaFUNERAL ",
   "URNaNEUTERaCERESaPALLASaJUNOaVESTAaCHIRONaBLACK MOON LILITHaSEXTILEcMISEXTILEaQUINCUNXaSESQUI",
   "QUADRATEbOCCER BALLaBASEBALLaSQUARED KEYaWHITE DRAUGHTS MANpKINGaBLACK DRAUGHTS MANpKINGaSNOW",
   "MAN WITHOUT SNOWbUN BEHIND CLOUDaRAINaBLACK SNOWMANaTHUNDER CLOUD AND RAINbURNED WHITE SHOGI ",
   "PIECEhBLACK SHOGI PIECEaWHITE DIAMOND IN SQUAREaCROSSING LANESaDISABLED CARaOPHIUCHUSaPICKaCA",
   "R SLIDINGaHELMET WITH WHITE CROSSaCIRCLED CROSSING LANESbHAINSaNO ENTRYaALTERNATE ONE-WAY LEF",
   "T WAY TRAFFICaBLACK TWO-WAY LEFT WAY TRAFFICaWHITE TWO-WAY LEFT WAY TRAFFICaBLACK LEFT LANE M",
   "ERGEaWHITE LEFT LANE MERGEaDRIVE SLOW SIGNaHEAVY WHITE DOWN-POINTING TRIANGLEaLEFT CLOSED ENT",
   "RYaSQUARED SALTIREaFALLING DIAGONAL IN WHITE CIRCLE IN BLACK SQUAREaBLACK TRUCKaRESTRICTED LE",
   "FT ENTRY-1w2aASTRONOMICAL SYMBOL FOR URANUSaHEAVY CIRCLE WITH STROKE AND TWO DOTS ABOVEaPENTA",
   "GRAMaRIGHT-HANDED INTERLACED PENTAGRAMaLEFT-HANDED INTERLACED PENTAGRAMaINVERTED PENTAGRAMaBL",
   "ACK CROSS ON SHIELDaSHINTO SHRINEaCHURCHbASTLEaHISTORIC SITEaGEAR WITHOUT HUBj HANDLESaMAP SY",
   "MBOL FOR LIGHTHOUSEbOUNTAINaUMBRELLA ON GROUNDaFOUNTAINbLAG IN HOLEbERRYaSAILBOATbQUARE FOUR ",
   "CORNERSbKIERaICE SKATEaPERSON WITH BALLaTENTaJAPANESE BANK SYMBOLaHEADSTONE GRAVEYARD SYMBOLa",
   "FUEL PUMPaCUP ON BLACK SQUAREaWHITE FLAG WITH HORIZONTAL MIDDLE BLACK STRIPEaBLACK SAFETY SCI",
   "SSORSaUPPER BLADE SCISSORSaBLACK SCISSORSaLOWER BLADE SCISSORSaWHITE SCISSORSgHEAVY CHECK MAR",
   "KaTELEPHONE LOCATION SIGNbAPE DRIVEaAIRPLANEaENVELOPEaRAISED FISThHANDaVICTORY HANDaWRITING H",
   "ANDaLOWER RIGHT PENCILaPENCILaUPPER RIGHT PENCILaWHITE NIBaBLACK NIBaCHECK MARKaHEAVY CHECK M",
   "ARKaMULTIPLICATION XaHEAVY MULTIPLICATION XaBALLOT XaHEAVY BALLOT XaOUTLINED GREEK CROSSaHEAV",
   "Y GREEK CROSSaOPEN CENTRE CROSSaHEAVY OPEN CENTRE CROSSaLATIN CROSSaSHADOWED WHITE LATIN CROS",
   "SaOUTLINED LATIN CROSSaMALTESE CROSSaSTAR OF DAVIDaFOUR TEARDROP-SPOKED ASTERISKfBALLOON-SPOK",
   "ED ASTERISKaHEAVY FOUR BALLOON-SPOKED ASTERISKaFOUR CLUB-SPOKED ASTERISKaBLACK FOUR POINTED S",
   "TARaWHITE FOUR POINTED STARaSPARKLESbTRESS OUTLINED WHITE STARaCIRCLED WHITE STARaOPEN CENTRE",
   " BLACK STARaBLACK CENTRE WHITE STARaOUTLINED BLACK STARaHEAVY OUTLINED BLACK STARaPINWHEEL ST",
   "ARaSHADOWED WHITE STARaHEAVY ASTERISKaOPEN CENTRE ASTERISKaEIGHT SPOKED ASTERISKgPOINTED BLAC",
   "K STARoPINWHEEL STARaSIX POINTED BLACK STARaEIGHT POINTED RECTILINEAR BLACK STARaHEAVY EIGHT ",
   "POINTED RECTILINEAR BLACK STARaTWELVE POINTED BLACK STARaSIXTEEN POINTED ASTERISKaTEARDROP-SP",
   "OKED ASTERISKaOPEN CENTRE TEARDROP-SPOKED ASTERISKaHEAVY TEARDROP-SPOKED ASTERISKaSIX PETALLE",
   "D BLACK AND WHITE FLORETTEaBLACK FLORETTEaWHITE FLORETTEaEIGHT PETALLED OUTLINED BLACK FLORET",
   "TEaCIRCLED OPEN CENTRE EIGHT POINTED STARaHEAVY TEARDROP-SPOKED PINWHEEL ASTERISKaSNOWFLAKEaT",
   "IGHT TRIFOLIATE SNOWFLAKEaHEAVY CHEVRON SNOWFLAKEaSPARKLEaHEAVY SPARKLEaBALLOON-SPOKED ASTERI",
   "SKaEIGHT TEARDROP-SPOKED PROPELLER ASTERISKaHEAVY EIGHT TEARDROP-SPOKED PROPELLER ASTERISKaCR",
   "OSS MARKaSHADOWED WHITE CIRCLEaNEGATIVE SQUARED CROSS MARKaLOWER RIGHT DROP-SHADOWED WHITE SQ",
   "UAREaUPPER RIGHT DROP-SHADOWED WHITE SQUAREaLOWER RIGHT SHADOWED WHITE SQUAREaUPPER RIGHT SHA",
   "DOWED WHITE SQUAREaBLACK QUESTION MARK ORNAMENTaWHITE QUESTION MARK ORNAMENTgEXCLAMATION MARK",
   " ORNAMENTaBLACK DIAMOND MINUS WHITE XaHEAVY EXCLAMATION MARK SYMBOLaLIGHT VERTICAL BARaMEDIUM",
   " VERTICAL BARaHEAVY VERTICAL BARgSINGLE TURNED COMMA QUOTATION MARK ORNAMENTnCOMMA QUOTATION ",
   "MARK ORNAMENTgDOUBLE TURNED COMMA QUOTATION MARK ORNAMENTnCOMMA QUOTATION MARK ORNAMENTgLOW S",
   "INGLE COMMA QUOTATION MARK ORNAMENTkDOUBLE COMMA QUOTATION MARK ORNAMENTaCURVED STEM PARAGRAP",
   "H SIGN ORNAMENTaHEAVY EXCLAMATION MARK ORNAMENTgHEART EXCLAMATION MARK ORNAMENTgBLACK HEARTaR",
   "OTATED HEAVY BLACK HEART BULLETaFLORAL HEARTaROTATED FLORAL HEART BULLETaMEDIUM LEFT PARENTHE",
   "SIS ORNAMENThRIGHT PARENTHESIS ORNAMENThFLATTENED LEFT PARENTHESIS ORNAMENTrRIGHT PARENTHESIS",
   " ORNAMENThLEFT-POINTING ANGLE BRACKET ORNAMENThRIGHT-POINTING ANGLE BRACKET ORNAMENTaHEAVY LE",
   "FT-POINTING ANGLE QUOTATION MARK ORNAMENTgRIGHT-POINTING ANGLE QUOTATION MARK ORNAMENTgLEFT-P",
   "OINTING ANGLE BRACKET ORNAMENTgRIGHT-POINTING ANGLE BRACKET ORNAMENTaLIGHT LEFT TORTOISE SHEL",
   "L BRACKET ORNAMENTgRIGHT TORTOISE SHELL BRACKET ORNAMENTaMEDIUM LEFT CURLY BRACKET ORNAMENThR",
   "IGHT CURLY BRACKET ORNAMENTaDINGBAT NEGATIVE CIRCLED DIGIT ONEbfTWObgHREEbfFOURbgIVEbfSIXbgEV",
   "ENbfEIGHTbfNINEzNUMBER TENiCIRCLED SANS-SERIF DIGIT ONEbhTWObiHREEbhFOURbiIVEbhSIXbiEVENbhEIG",
   "HTbhNINEbbNUMBER TENiNEGATIVE CIRCLED SANS-SERIF DIGIT ONEbqTWObrHREEbqFOURbrIVEbqSIXbrEVENbq",
   "EIGHTbqNINEbkNUMBER TENaHEAVY WIDE-HEADED RIGHTWARDS ARROWgPLUS SIGNgMINUS SIGNgDIVISION SIGN",
   "gSOUTH EAST ARROWgRIGHTWARDS ARROWgNORTH EAST ARROWaDRAFTING POINT RIGHTWARDS ARROWaHEAVY ROU",
   "ND-TIPPED RIGHTWARDS ARROWaTRIANGLE-HEADED RIGHTWARDS ARROWaHEAVY TRIANGLE-HEADED RIGHTWARDS ",
   "ARROWaDASHED TRIANGLE-HEADED RIGHTWARDS ARROWaHEAVY DASHED TRIANGLE-HEADED RIGHTWARDS ARROWaB",
   "LACK RIGHTWARDS ARROWaTHREE-D TOP-LIGHTED RIGHTWARDS ARROWHEADiBOTTOM-LIGHTED RIGHTWARDS ARRO",
   "WHEADaBLACK RIGHTWARDS ARROWHEADaHEAVY BLACK CURVED DOWNWARDS AND RIGHTWARDS ARROWtUPWARDS AN",
   "D RIGHTWARDS ARROWaSQUAT BLACK RIGHTWARDS ARROWaHEAVY CONCAVE-POINTED BLACK RIGHTWARDS ARROWa",
   "RIGHT-SHADED WHITE RIGHTWARDS ARROWaLEFT-SHADED WHITE RIGHTWARDS ARROWaBACK-TILTED SHADOWED W",
   "HITE RIGHTWARDS ARROWaFRONT-TILTED SHADOWED WHITE RIGHTWARDS ARROWaHEAVY LOWER RIGHT-SHADOWED",
   " WHITE RIGHTWARDS ARROWgUPPER RIGHT-SHADOWED WHITE RIGHTWARDS ARROWaNOTCHED LOWER RIGHT-SHADO",
   "WED WHITE RIGHTWARDS ARROWaCURLY LOOPaNOTCHED UPPER RIGHT-SHADOWED WHITE RIGHTWARDS ARROWaCIR",
   "CLED HEAVY WHITE RIGHTWARDS ARROWaWHITE-FEATHERED RIGHTWARDS ARROWaBLACK-FEATHERED SOUTH EAST",
   " ARROWqRIGHTWARDS ARROWqNORTH EAST ARROWaHEAVY BLACK-FEATHERED SOUTH EAST ARROWwRIGHTWARDS AR",
   "ROWwNORTH EAST ARROWaTEARDROP-BARBED RIGHTWARDS ARROWaHEAVY TEARDROP-SHANKED RIGHTWARDS ARROW",
   "aWEDGE-TAILED RIGHTWARDS ARROWaHEAVY WEDGE-TAILED RIGHTWARDS ARROWaOPEN-OUTLINED RIGHTWARDS A",
   "RROWaDOUBLE CURLY LOOPaTHREE DIMENSIONAL ANGLEaWHITE TRIANGLE CONTAINING SMALL WHITE TRIANGLE",
   "aPERPENDICULARaOPEN SUBSEThPERSETaLEFT S-SHAPED BAG DELIMITERaRIGHT S-SHAPED BAG DELIMITERaOR",
   " WITH DOT INSIDEaREVERSE SOLIDUS PRECEDING SUBSETaSUPERSET PRECEDING SOLIDUSaVERTICAL BAR WIT",
   "H HORIZONTAL STROKEaMATHEMATICAL RISING DIAGONALaLONG DIVISIONaMATHEMATICAL FALLING DIAGONALa",
   "SQUARED LOGICAL ANDqORaWHITE DIAMOND WITH CENTRED DOTaAND WITH DOTaELEMENT OF OPENING UPWARDS",
   "aLOWER RIGHT CORNER WITH DOTaUPPER LEFT CORNER WITH DOTaLEFT OUTER JOINaRIGHT OUTER JOINaFULL",
   " OUTER JOINaLARGE UP TACKgDOWN TACKbEFT AND RIGHT DOUBLE TURNSTILEpTACKfMULTIMAPbONG RIGHT TA",
   "CKfLEFT TACKaUP TACK WITH CIRCLE ABOVEaLOZENGE DIVIDED BY HORIZONTAL RULEaWHITE CONCAVE-SIDED",
   " DIAMONDbb WITH LEFTWARDS TICKbhRIGHTWARDS TICKgSQUARE WITH LEFTWARDS TICKsRIGHTWARDS TICKaMA",
   "THEMATICAL LEFT WHITE SQUARE BRACKETnRIGHT WHITE SQUARE BRACKETnLEFT ANGLE BRACKETnRIGHT ANGL",
   "E BRACKETnLEFT DOUBLE ANGLE BRACKETnRIGHT DOUBLE ANGLE BRACKETnLEFT WHITE TORTOISE SHELL BRAC",
   "KETnRIGHT WHITE TORTOISE SHELL BRACKETnLEFT FLATTENED PARENTHESISnRIGHT FLATTENED PARENTHESIS",
   "aUPWARDS QUADRUPLE ARROWaDOWNWARDS QUADRUPLE ARROWaANTICLOCKWISE GAPPED CIRCLE ARROWaCLOCKWIS",
   "E GAPPED CIRCLE ARROWaRIGHT ARROW WITH CIRCLED PLUSaLONG LEFTWARDS ARROWfRIGHTWARDS ARROWfLEF",
   "T RIGHT ARROWjWARDS DOUBLE ARROWfRIGHTWARDS DOUBLE ARROWfLEFT RIGHT DOUBLE ARROWjWARDS ARROW ",
   "FROM BARfRIGHTWARDS ARROW FROM BARfLEFTWARDS DOUBLE ARROW FROM BARfRIGHTWARDS DOUBLE ARROW FR",
   "OM BARqSQUIGGLE ARROWaBRAILLE PATTERN BLANKqDOTS-1v2v12v3v13v23v123v4v14v24v124v34v134v234v12",
   "34v5v15v25v125v35v135v235v1235v45v145v245v1245v345v1345v2345v12345v6v16v26v126v36v136v236v123",
   "6v46v146v246v1246v346v1346v2346v12346v56v156v256v1256v356v1356v2356v12356v456v1456v2456v12456",
   "v3456v13456v23456v123456v7v17v27v127v37v137v237v1237v47v147v247v1247v347v1347v2347v12347v57v1",
   "57v257v1257v357v1357v2357v12357v457v1457v2457v12457v3457v13457v23457v123457v67v167v267v1267v3",
   "67v1367v2367v12367v467v1467v2467v12467v3467v13467v23467v123467v567v1567v2567v12567v3567v13567",
   "v23567v123567v4567v14567v24567v124567v34567v134567v234567v1234567v8v18v28v128v38v138v238v1238",
   "v48v148v248v1248v348v1348v2348v12348v58v158v258v1258v358v1358v2358v12358v458v1458v2458v12458v",
   "3458v13458v23458v123458v68v168v268v1268v368v1368v2368v12368v468v1468v2468v12468v3468v13468v23",
   "468v123468v568v1568v2568v12568v3568v13568v23568v123568v4568v14568v24568v124568v34568v134568v2",
   "34568v1234568v78v178v278v1278v378v1378v2378v12378v478v1478v2478v12478v3478v13478v23478v123478",
   "v578v1578v2578v12578v3578v13578v23578v123578v4578v14578v24578v124578v34578v134578v234578v1234",
   "578v678v1678v2678v12678v3678v13678v23678v123678v4678v14678v24678v124678v34678v134678v234678v1",
   "234678v5678v15678v25678v125678v35678v135678v235678v1235678v45678v145678v245678v1245678v345678",
   "v1345678v2345678v12345678aRIGHTWARDS TWO-HEADED ARROW WITH VERTICAL STROKEbhDOUBLE VERTICAL S",
   "TROKEaLEFTWARDS DOUBLE ARROW WITH VERTICAL STROKEaRIGHTWARDS DOUBLE ARROW WITH VERTICAL STROK",
   "EaLEFT RIGHT DOUBLE ARROW WITH VERTICAL STROKEaRIGHTWARDS TWO-HEADED ARROW FROM BARaLEFTWARDS",
   " DOUBLE ARROW FROM BARaRIGHTWARDS DOUBLE ARROW FROM BARaDOWNWARDS ARROW WITH HORIZONTAL STROK",
   "EaUPWARDS ARROW WITH HORIZONTAL STROKEiTRIPLE ARROWaDOWNWARDS TRIPLE ARROWaLEFTWARDS DOUBLE D",
   "ASH ARROWaRIGHTWARDS DOUBLE DASH ARROWaLEFTWARDS TRIPLE DASH ARROWaRIGHTWARDS TRIPLE DASH ARR",
   "OWmWO-HEADED TRIPLE DASH ARROWlARROW WITH DOTTED STEMaUPWARDS ARROW TO BARaDOWNWARDS ARROW TO",
   " BARaRIGHTWARDS ARROW WITH TAIL WITH VERTICAL STROKEbgDOUBLE VERTICAL STROKElTWO-HEADED ARROW",
   " WITH TAILbl WITH VERTICAL STROKEbrDOUBLE VERTICAL STROKEaLEFTWARDS ARROW-TAILaRIGHTWARDS ARR",
   "OW-TAILaLEFTWARDS DOUBLE ARROW-TAILaRIGHTWARDS DOUBLE ARROW-TAILaLEFTWARDS ARROW TO BLACK DIA",
   "MONDaRIGHTWARDS ARROW TO BLACK DIAMONDaLEFTWARDS ARROW FROM BAR TO BLACK DIAMONDaRIGHTWARDS A",
   "RROW FROM BAR TO BLACK DIAMONDaNORTH WEST AND SOUTH EAST ARROWgEAST AND SOUTH WEST ARROWgWEST",
   " ARROW WITH HOOKgEAST ARROW WITH HOOKaSOUTH EAST ARROW WITH HOOKgWEST ARROW WITH HOOKaNORTH W",
   "EST ARROW AND NORTH EAST ARROWgEAST ARROW AND SOUTH EAST ARROWaSOUTH EAST ARROW AND SOUTH WES",
   "T ARROWgWEST ARROW AND NORTH WEST ARROWaRISING DIAGONAL CROSSING FALLING DIAGONALaFALLING DIA",
   "GONAL CROSSING RISING DIAGONALaSOUTH EAST ARROW CROSSING NORTH EAST ARROWaNORTH EAST ARROW CR",
   "OSSING SOUTH EAST ARROWaFALLING DIAGONAL CROSSING NORTH EAST ARROWaRISING DIAGONAL CROSSING S",
   "OUTH EAST ARROWaNORTH EAST ARROW CROSSING NORTH WEST ARROWgWEST ARROW CROSSING NORTH EAST ARR",
   "OWaWAVE ARROW POINTING DIRECTLY RIGHTaARROW POINTING RIGHTWARDS THEN CURVING UPWARDSbnDOWNWAR",
   "DSpDOWNWARDS THEN CURVING LEFTWARDSbmRIGHTWARDSaRIGHT-SIDE ARC CLOCKWISE ARROWaLEFT-SIDE ARC ",
   "ANTICLOCKWISE ARROWaTOP ARC ANTICLOCKWISE ARROWaBOTTOM ARC ANTICLOCKWISE ARROWaTOP ARC CLOCKW",
   "ISE ARROW WITH MINUSiANTICLOCKWISE ARROW WITH PLUSaLOWER RIGHT SEMICIRCULAR CLOCKWISE ARROWgL",
   "EFT SEMICIRCULAR ANTICLOCKWISE ARROWaANTICLOCKWISE CLOSED CIRCLE ARROWaCLOCKWISE CLOSED CIRCL",
   "E ARROWaRIGHTWARDS ARROW ABOVE SHORT LEFTWARDS ARROWaLEFTWARDS ARROW ABOVE SHORT RIGHTWARDS A",
   "RROWaSHORT RIGHTWARDS ARROW ABOVE LEFTWARDS ARROWaRIGHTWARDS ARROW WITH PLUS BELOWaLEFTWARDS ",
   "ARROW WITH PLUS BELOWaRIGHTWARDS ARROW THROUGH XaLEFT RIGHT ARROW THROUGH SMALL CIRCLEaUPWARD",
   "S TWO-HEADED ARROW FROM SMALL CIRCLEaLEFT BARB UP RIGHT BARB DOWN HARPOONkDOWN RIGHT BARB UP ",
   "HARPOONaUP BARB RIGHT DOWN BARB LEFT HARPOONiLEFT DOWN BARB RIGHT HARPOONaLEFT BARB UP RIGHT ",
   "BARB UP HARPOONaUP BARB RIGHT DOWN BARB RIGHT HARPOONaLEFT BARB DOWN RIGHT BARB DOWN HARPOONa",
   "UP BARB LEFT DOWN BARB LEFT HARPOONaLEFTWARDS HARPOON WITH BARB UP TO BARaRIGHTWARDS HARPOON ",
   "WITH BARB UP TO BARaUPWARDS HARPOON WITH BARB RIGHT TO BARaDOWNWARDS HARPOON WITH BARB RIGHT ",
   "TO BARaLEFTWARDS HARPOON WITH BARB DOWN TO BARaRIGHTWARDS HARPOON WITH BARB DOWN TO BARaUPWAR",
   "DS HARPOON WITH BARB LEFT TO BARaDOWNWARDS HARPOON WITH BARB LEFT TO BARaLEFTWARDS HARPOON WI",
   "TH BARB UP FROM BARaRIGHTWARDS HARPOON WITH BARB UP FROM BARaUPWARDS HARPOON WITH BARB RIGHT ",
   "FROM BARaDOWNWARDS HARPOON WITH BARB RIGHT FROM BARaLEFTWARDS HARPOON WITH BARB DOWN FROM BAR",
   "aRIGHTWARDS HARPOON WITH BARB DOWN FROM BARaUPWARDS HARPOON WITH BARB LEFT FROM BARaDOWNWARDS",
   " HARPOON WITH BARB LEFT FROM BARaLEFTWARDS HARPOON WITH BARB UP ABOVE LEFTWARDS HARPOON WITH ",
   "BARB DOWNaUPWARDS HARPOON WITH BARB LEFT BESIDE UPWARDS HARPOON WITH BARB RIGHTaRIGHTWARDS HA",
   "RPOON WITH BARB UP ABOVE RIGHTWARDS HARPOON WITH BARB DOWNaDOWNWARDS HARPOON WITH BARB LEFT B",
   "ESIDE DOWNWARDS HARPOON WITH BARB RIGHTaLEFTWARDS HARPOON WITH BARB UP ABOVE RIGHTWARDS HARPO",
   "ON WITH BARB UPbcDOWN ABOVE RIGHTWARDS HARPOON WITH BARB DOWNaRIGHTWARDS HARPOON WITH BARB UP",
   " ABOVE LEFTWARDS HARPOON WITH BARB UPbdDOWN ABOVE LEFTWARDS HARPOON WITH BARB DOWNaLEFTWARDS ",
   "HARPOON WITH BARB UP ABOVE LONG DASHbcDOWN BELOW LONG DASHaRIGHTWARDS HARPOON WITH BARB UP AB",
   "OVE LONG DASHbdDOWN BELOW LONG DASHaUPWARDS HARPOON WITH BARB LEFT BESIDE DOWNWARDS HARPOON W",
   "ITH BARB RIGHTaDOWNWARDS HARPOON WITH BARB LEFT BESIDE UPWARDS HARPOON WITH BARB RIGHTaRIGHT ",
   "DOUBLE ARROW WITH ROUNDED HEADaEQUALS SIGN ABOVE RIGHTWARDS ARROWaTILDE OPERATOR ABOVE RIGHTW",
   "ARDS ARROWaLEFTWARDS ARROW ABOVE TILDE OPERATORaRIGHTWARDS ARROW ABOVE TILDE OPERATORxALMOST ",
   "EQUAL TOaLESS-THAN ABOVE LEFTWARDS ARROWcFTWARDS ARROW THROUGH LESS-THANaGREATER-THAN ABOVE R",
   "IGHTWARDS ARROWaSUBSET ABOVE RIGHTWARDS ARROWaLEFTWARDS ARROW THROUGH SUBSETaSUPERSET ABOVE L",
   "EFTWARDS ARROWaLEFT FISH TAILaRIGHT FISH TAILaUP FISH TAILaDOWN FISH TAILaTRIPLE VERTICAL BAR",
   " DELIMITERaZ NOTATION SPOTlTYPE COLONaLEFT WHITE CURLY BRACKETaRIGHT WHITE CURLY BRACKETaLEFT",
   " WHITE PARENTHESISaRIGHT WHITE PARENTHESISaZ NOTATION LEFT IMAGE BRACKETlRIGHT IMAGE BRACKETl",
   "LEFT BINDING BRACKETlRIGHT BINDING BRACKETaLEFT SQUARE BRACKET WITH UNDERBARaRIGHT SQUARE BRA",
   "CKET WITH UNDERBARaLEFT SQUARE BRACKET WITH TICK IN TOP CORNERaRIGHT SQUARE BRACKET WITH TICK",
   " IN BOTTOM CORNERaLEFT SQUARE BRACKET WITH TICK IN BOTTOM CORNERaRIGHT SQUARE BRACKET WITH TI",
   "CK IN TOP CORNERaLEFT ANGLE BRACKET WITH DOTaRIGHT ANGLE BRACKET WITH DOTaLEFT ARC LESS-THAN ",
   "BRACKETaRIGHT ARC GREATER-THAN BRACKETaDOUBLE LEFT ARC GREATER-THAN BRACKEThRIGHT ARC LESS-TH",
   "AN BRACKETaLEFT BLACK TORTOISE SHELL BRACKETaRIGHT BLACK TORTOISE SHELL BRACKETaDOTTED FENCEa",
   "VERTICAL ZIGZAG LINEaMEASURED ANGLE OPENING LEFTaRIGHT ANGLE VARIANT WITH SQUAREaMEASURED RIG",
   "HT ANGLE WITH DOTaANGLE WITH S INSIDEbCUTE ANGLEaSPHERICAL ANGLE OPENING LEFTyUPaTURNED ANGLE",
   "aREVERSED ANGLEaANGLE WITH UNDERBARaREVERSED ANGLE WITH UNDERBARaOBLIQUE ANGLE OPENING UPwDOW",
   "NaMEASURED ANGLE WITH OPEN ARM ENDING IN ARROW POINTING UP AND RIGHTcjLEFTccDOWN AND RIGHTclL",
   "EFTccRIGHT AND UPccLEFT AND UPccRIGHT AND DOWNccLEFT AND DOWNaREVERSED EMPTY SETaEMPTY SET WI",
   "TH OVERBARpSMALL CIRCLE ABOVEpRIGHT ARROW ABOVEpLEFT ARROW ABOVEaCIRCLE WITH HORIZONTAL BARgD",
   " VERTICAL BARiPARALLELiREVERSE SOLIDUSiPERPENDICULARg DIVIDED BY HORIZONTAL BAR AND TOP HALF ",
   "DIVIDED BY VERTICAL BARhWITH SUPERIMPOSED XgD ANTICLOCKWISE-ROTATED DIVISION SIGNaUP ARROW TH",
   "ROUGH CIRCLEaCIRCLED WHITE BULLETiBULLETiLESS-THANiGREATER-THANg WITH SMALL CIRCLE TO THE RIG",
   "HTmTWO HORIZONTAL STROKES TO THE RIGHTaSQUARED RISING DIAGONAL SLASHiFALLING DIAGONAL SLASHiA",
   "STERISKiSMALL CIRCLEjQUAREaTWO JOINED SQUARESbRIANGLE WITH DOT ABOVEoUNDERBARaS IN TRIANGLEaT",
   "RIANGLE WITH SERIFS AT BOTTOMaRIGHT TRIANGLE ABOVE LEFT TRIANGLEaLEFT TRIANGLE BESIDE VERTICA",
   "L BARaVERTICAL BAR BESIDE RIGHT TRIANGLEaBOWTIE WITH LEFT HALF BLACKmRIGHT HALF BLACKbLACK BO",
   "WTIEaTIMES WITH LEFT HALF BLACKlRIGHT HALF BLACKaWHITE HOURGLASSaBLACK HOURGLASSaLEFT WIGGLY ",
   "FENCEaRIGHT WIGGLY FENCEaLEFT DOUBLE WIGGLY FENCEaRIGHT DOUBLE WIGGLY FENCEaINCOMPLETE INFINI",
   "TYaTIE OVER INFINITYaINFINITY NEGATED WITH VERTICAL BARaDOUBLE-ENDED MULTIMAPaSQUARE WITH CON",
   "TOURED OUTLINEaINCREASES ASaSHUFFLE PRODUCTaEQUALS SIGN AND SLANTED PARALLELbg WITH TILDE ABO",
   "VEaIDENTICAL TO AND SLANTED PARALLELaGLEICH STARKaTHERMODYNAMICaDOWN-POINTING TRIANGLE WITH L",
   "EFT HALF BLACKbcRIGHT HALF BLACKaBLACK DIAMOND WITH DOWN ARROWgLOZENGEaWHITE CIRCLE WITH DOWN",
   " ARROWaBLACK CIRCLE WITH DOWN ARROWaERROR-BARRED WHITE SQUAREnBLACK SQUAREnWHITE DIAMONDnBLAC",
   "K DIAMONDnWHITE CIRCLEnBLACK CIRCLEaRULE-DELAYEDbEVERSE SOLIDUS OPERATORaSOLIDUS WITH OVERBAR",
   "aREVERSE SOLIDUS WITH HORIZONTAL STROKEaBIG SOLIDUSeREVERSE SOLIDUSaDOUBLE PLUSaTRIPLE PLUSaL",
   "EFT-POINTING CURVED ANGLE BRACKETaRIGHT-POINTING CURVED ANGLE BRACKETaTINYaMINYaN-ARY CIRCLED",
   " DOT OPERATORoPLUS OPERATORoTIMES OPERATORgUNION OPERATOR WITH DOTbaPLUSgSQUARE INTERSECTION ",
   "OPERATORnUNION OPERATORaTWO LOGICAL AND OPERATORmOR OPERATORaN-ARY TIMES OPERATORaMODULO TWO ",
   "SUMaSUMMATION WITH INTEGRALaQUADRUPLE INTEGRAL OPERATORaFINITE PART INTEGRALaINTEGRAL WITH DO",
   "UBLE STROKEjAVERAGE WITH SLASHaCIRCULATION FUNCTIONaANTICLOCKWISE INTEGRATIONaLINE INTEGRATIO",
   "N WITH RECTANGULAR PATH AROUND POLEwSEMICIRCULAR PATH AROUND POLErNOT INCLUDING THE POLEaINTE",
   "GRAL AROUND A POINT OPERATORaQUATERNION INTEGRAL OPERATORaINTEGRAL WITH LEFTWARDS ARROW WITH ",
   "HOOKoTIMES SIGNoINTERSECTIONoUNIONoOVERBARoUNDERBARaJOINaLARGE LEFT TRIANGLE OPERATORaZ NOTAT",
   "ION SCHEMA COMPOSITIONsPIPINGtROJECTIONaPLUS SIGN WITH SMALL CIRCLE ABOVEpCIRCUMFLEX ACCENT A",
   "BOVEpTILDE ABOVEpDOT BELOWpTILDE BELOWpSUBSCRIPT TWOpBLACK TRIANGLEaMINUS SIGN WITH COMMA ABO",
   "VEqDOT BELOWqFALLING DOTSqRISING DOTSaPLUS SIGN IN LEFT HALF CIRCLEnRIGHT HALF CIRCLEaVECTOR ",
   "OR CROSS PRODUCTaMULTIPLICATION SIGN WITH DOT ABOVEzUNDERBARaSEMIDIRECT PRODUCT WITH BOTTOM C",
   "LOSEDbMASH PRODUCTaMULTIPLICATION SIGN IN LEFT HALF CIRCLExRIGHT HALF CIRCLEaCIRCLED MULTIPLI",
   "CATION SIGN WITH CIRCUMFLEX ACCENTaMULTIPLICATION SIGN IN DOUBLE CIRCLEaCIRCLED DIVISION SIGN",
   "aPLUS SIGN IN TRIANGLEaMINUS SIGN IN TRIANGLEbULTIPLICATION SIGN IN TRIANGLEaINTERIOR PRODUCT",
   "aRIGHTHAND INTERIOR PRODUCTaZ NOTATION RELATIONAL COMPOSITIONaAMALGAMATION OR COPRODUCTaINTER",
   "SECTION WITH DOTaUNION WITH MINUS SIGNlOVERBARaINTERSECTION WITH OVERBARsLOGICAL ANDaUNION WI",
   "TH LOGICAL ORgABOVE INTERSECTIONaINTERSECTION ABOVE UNIONaUNION ABOVE BAR ABOVE INTERSECTIONa",
   "INTERSECTION ABOVE BAR ABOVE UNIONaUNION BESIDE AND JOINED WITH UNIONaINTERSECTION BESIDE AND",
   " JOINED WITH INTERSECTIONaCLOSED UNION WITH SERIFShINTERSECTION WITH SERIFSaDOUBLE SQUARE INT",
   "ERSECTIONoUNIONaCLOSED UNION WITH SERIFS AND SMASH PRODUCTaLOGICAL AND WITH DOT ABOVEiOR WITH",
   " DOT ABOVEaDOUBLE LOGICAL ANDpORaTWO INTERSECTING LOGICAL ANDzORaSLOPING LARGE ORoANDaLOGICAL",
   " OR OVERLAPPING LOGICAL ANDiAND WITH MIDDLE STEMiOR WITH MIDDLE STEMiAND WITH HORIZONTAL DASH",
   "iOR WITH HORIZONTAL DASHiAND WITH DOUBLE OVERBARrUNDERBARrDOUBLE UNDERBARaSMALL VEE WITH UNDE",
   "RBARaLOGICAL OR WITH DOUBLE OVERBARxUNDERBARaZ NOTATION DOMAIN ANTIRESTRICTIONlRANGE ANTIREST",
   "RICTIONaEQUALS SIGN WITH DOT BELOWaIDENTICAL WITH DOT ABOVEaTRIPLE HORIZONTAL BAR WITH DOUBLE",
   " VERTICAL STROKEbbTRIPLE VERTICAL STROKEbILDE OPERATOR WITH DOT ABOVEuRISING DOTSaSIMILAR MIN",
   "US SIMILARaCONGRUENT WITH DOT ABOVEaEQUALS WITH ASTERISKaALMOST EQUAL TO WITH CIRCUMFLEX ACCE",
   "NTbPPROXIMATELY EQUAL OR EQUAL TOaEQUALS SIGN ABOVE PLUS SIGNaPLUS SIGN ABOVE EQUALS SIGNaEQU",
   "ALS SIGN ABOVE TILDE OPERATORaDOUBLE COLON EQUALaTWO CONSECUTIVE EQUALS SIGNSbHREE CONSECUTIV",
   "E EQUALS SIGNSaEQUALS SIGN WITH TWO DOTS ABOVE AND TWO DOTS BELOWdIVALENT WITH FOUR DOTS ABOV",
   "EaLESS-THAN WITH CIRCLE INSIDEaGREATER-THAN WITH CIRCLE INSIDEaLESS-THAN WITH QUESTION MARK A",
   "BOVEaGREATER-THAN WITH QUESTION MARK ABOVEaLESS-THAN OR SLANTED EQUAL TOaGREATER-THAN OR SLAN",
   "TED EQUAL TOaLESS-THAN OR SLANTED EQUAL TO WITH DOT INSIDEaGREATER-THAN OR SLANTED EQUAL TO W",
   "ITH DOT INSIDEaLESS-THAN OR SLANTED EQUAL TO WITH DOT ABOVEaGREATER-THAN OR SLANTED EQUAL TO ",
   "WITH DOT ABOVEaLESS-THAN OR SLANTED EQUAL TO WITH DOT ABOVE RIGHTaGREATER-THAN OR SLANTED EQU",
   "AL TO WITH DOT ABOVE LEFTaLESS-THAN OR APPROXIMATEaGREATER-THAN OR APPROXIMATEaLESS-THAN AND ",
   "SINGLE-LINE NOT EQUAL TOaGREATER-THAN AND SINGLE-LINE NOT EQUAL TOaLESS-THAN AND NOT APPROXIM",
   "ATEaGREATER-THAN AND NOT APPROXIMATEaLESS-THAN ABOVE DOUBLE-LINE EQUAL ABOVE GREATER-THANaGRE",
   "ATER-THAN ABOVE DOUBLE-LINE EQUAL ABOVE LESS-THANaLESS-THAN ABOVE SIMILAR OR EQUALaGREATER-TH",
   "AN ABOVE SIMILAR OR EQUALaLESS-THAN ABOVE SIMILAR ABOVE GREATER-THANaGREATER-THAN ABOVE SIMIL",
   "AR ABOVE LESS-THANaLESS-THAN ABOVE GREATER-THAN ABOVE DOUBLE-LINE EQUALaGREATER-THAN ABOVE LE",
   "SS-THAN ABOVE DOUBLE-LINE EQUALaLESS-THAN ABOVE SLANTED EQUAL ABOVE GREATER-THAN ABOVE SLANTE",
   "D EQUALaGREATER-THAN ABOVE SLANTED EQUAL ABOVE LESS-THAN ABOVE SLANTED EQUALaSLANTED EQUAL TO",
   " OR LESS-THANuGREATER-THANuLESS-THAN WITH DOT INSIDEuGREATER-THAN WITH DOT INSIDEaDOUBLE-LINE",
   " EQUAL TO OR LESS-THANyGREATER-THANmSLANTED EQUAL TO OR LESS-THANbgGREATER-THANaSIMILAR OR LE",
   "SS-THANlGREATER-THANiABOVE LESS-THAN ABOVE EQUALS SIGNoGREATER-THAN ABOVE EQUALS SIGNaDOUBLE ",
   "NESTED LESS-THANoGREATER-THANoLESS-THAN WITH UNDERBARaGREATER-THAN OVERLAPPING LESS-THANnBESI",
   "DE LESS-THANaLESS-THAN CLOSED BY CURVEaGREATER-THAN CLOSED BY CURVEaLESS-THAN CLOSED BY CURVE",
   " ABOVE SLANTED EQUALaGREATER-THAN CLOSED BY CURVE ABOVE SLANTED EQUALaSMALLER THANaLARGER THA",
   "NaSMALLER THAN OR EQUAL TOaLARGER THAN OR EQUAL TOaEQUALS SIGN WITH BUMPY ABOVEaPRECEDES ABOV",
   "E SINGLE-LINE EQUALS SIGNaSUCCEEDS ABOVE SINGLE-LINE EQUALS SIGNaPRECEDES ABOVE SINGLE-LINE N",
   "OT EQUAL TOaSUCCEEDS ABOVE SINGLE-LINE NOT EQUAL TOaPRECEDES ABOVE EQUALS SIGNaSUCCEEDS ABOVE",
   " EQUALS SIGNaPRECEDES ABOVE NOT EQUAL TOaSUCCEEDS ABOVE NOT EQUAL TOaPRECEDES ABOVE ALMOST EQ",
   "UAL TOaSUCCEEDS ABOVE ALMOST EQUAL TOaPRECEDES ABOVE NOT ALMOST EQUAL TOaSUCCEEDS ABOVE NOT A",
   "LMOST EQUAL TOaDOUBLE PRECEDEShSUCCEEDSaSUBSET WITH DOTcPERSET WITH DOTcBSET WITH PLUS SIGN B",
   "ELOWcPERSET WITH PLUS SIGN BELOWcBSET WITH MULTIPLICATION SIGN BELOWcPERSET WITH MULTIPLICATI",
   "ON SIGN BELOWcBSET OF OR EQUAL TO WITH DOT ABOVEcPERSET OF OR EQUAL TO WITH DOT ABOVEcBSET OF",
   " ABOVE EQUALS SIGNcPERSET OF ABOVE EQUALS SIGNcBSET OF ABOVE TILDE OPERATORcPERSET OF ABOVE T",
   "ILDE OPERATORcBSET OF ABOVE ALMOST EQUAL TOcPERSET OF ABOVE ALMOST EQUAL TOcBSET OF ABOVE NOT",
   " EQUAL TOcPERSET OF ABOVE NOT EQUAL TObQUARE LEFT OPEN BOX OPERATORhRIGHT OPEN BOX OPERATORaC",
   "LOSED SUBSETjPERSETjBSET OR EQUAL TOjPERSET OR EQUAL TOaSUBSET ABOVE SUPERSETcPERSET ABOVE SU",
   "BSETcBSET ABOVE SUBSETcPERSET ABOVE SUPERSETjBESIDE SUBSETqAND JOINED BY DASH WITH SUBSETaELE",
   "MENT OF OPENING DOWNWARDSaPITCHFORK WITH TEE TOPaTRANSVERSAL INTERSECTIONaFORKINGaNONFORKINGa",
   "SHORT LEFT TACKgDOWN TACKgUP TACKaPERPENDICULAR WITH SaVERTICAL BAR TRIPLE RIGHT TURNSTILEaDO",
   "UBLE VERTICAL BAR LEFT TURNSTILEaVERTICAL BAR DOUBLE LEFT TURNSTILEaDOUBLE VERTICAL BAR DOUBL",
   "E LEFT TURNSTILEaLONG DASH FROM LEFT MEMBER OF DOUBLE VERTICALaSHORT DOWN TACK WITH OVERBARgU",
   "P TACK WITH UNDERBARoABOVE SHORT DOWN TACKaDOUBLE DOWN TACKhUP TACKhSTROKE NOT SIGNaREVERSED ",
   "DOUBLE STROKE NOT SIGNaDOES NOT DIVIDE WITH REVERSED NEGATION SLASHaVERTICAL LINE WITH CIRCLE",
   " ABOVEbaBELOWaDOWN TACK WITH CIRCLE BELOWaPARALLEL WITH HORIZONTAL STROKEoTILDE OPERATORaTRIP",
   "LE VERTICAL BAR BINARY RELATIONuWITH HORIZONTAL STROKEhCOLON OPERATORhNESTED LESS-THANoGREATE",
   "R-THANaDOUBLE-LINE SLANTED LESS-THAN OR EQUAL TOuGREATER-THAN OR EQUAL TOaTRIPLE SOLIDUS BINA",
   "RY RELATIONaLARGE TRIPLE VERTICAL BAR OPERATORaDOUBLE SOLIDUS OPERATORaWHITE VERTICAL BARaN-A",
   "RY WHITE VERTICAL BARbORTH EAST WHITE ARROWgWEST WHITE ARROWaSOUTH EAST WHITE ARROWgWEST WHIT",
   "E ARROWaLEFT RIGHT WHITE ARROWeWARDS BLACK ARROWaUPWARDS BLACK ARROWaDOWNWARDS BLACK ARROWaNO",
   "RTH EAST BLACK ARROWgWEST BLACK ARROWaSOUTH EAST BLACK ARROWgWEST BLACK ARROWaLEFT RIGHT BLAC",
   "K ARROWaUP DOWN BLACK ARROWaRIGHTWARDS ARROW WITH TIP DOWNWARDSbaUPWARDSaLEFTWARDS ARROW WITH",
   " TIP DOWNWARDSzUPWARDSaSQUARE WITH TOP HALF BLACKmBOTTOM HALF BLACKmUPPER RIGHT DIAGONAL HALF",
   " BLACKmLOWER LEFT DIAGONAL HALF BLACKaDIAMOND WITH LEFT HALF BLACKnRIGHT HALF BLACKnTOP HALF ",
   "BLACKnBOTTOM HALF BLACKbOTTED SQUAREaBLACK LARGE SQUAREaWHITE LARGE SQUAREaBLACK VERY SMALL S",
   "QUAREaWHITE VERY SMALL SQUAREaBLACK PENTAGONaWHITE PENTAGONgHEXAGONaBLACK HEXAGONaHORIZONTAL ",
   "BLACK HEXAGONaBLACK LARGE CIRCLEgMEDIUM DIAMONDaWHITE MEDIUM DIAMONDaBLACK MEDIUM LOZENGEaWHI",
   "TE MEDIUM LOZENGEaBLACK SMALL DIAMONDmLOZENGEaWHITE SMALL LOZENGEaBLACK HORIZONTAL ELLIPSEaWH",
   "ITE HORIZONTAL ELLIPSEaBLACK VERTICAL ELLIPSEaWHITE VERTICAL ELLIPSEaLEFT ARROW WITH SMALL CI",
   "RCLEaTHREE LEFTWARDS ARROWSaLEFT ARROW WITH CIRCLED PLUSbONG LEFTWARDS SQUIGGLE ARROWbEFTWARD",
   "S TWO-HEADED ARROW WITH VERTICAL STROKEbgDOUBLE VERTICAL STROKEbbFROM BARvTRIPLE DASH ARROWkA",
   "RROW WITH DOTTED STEMvTAIL WITH VERTICAL STROKEbfDOUBLE VERTICAL STROKEkTWO-HEADED ARROW WITH",
   " TAILbk WITH VERTICAL STROKEbqDOUBLE VERTICAL STROKEkARROW THROUGH XaWAVE ARROW POINTING DIRE",
   "CTLY LEFTaEQUALS SIGN ABOVE LEFTWARDS ARROWaREVERSE TILDE OPERATOR ABOVE LEFTWARDS ARROWaLEFT",
   "WARDS ARROW ABOVE REVERSE ALMOST EQUAL TOaRIGHTWARDS ARROW THROUGH GREATER-THANzSUPERSETaLEFT",
   "WARDS QUADRUPLE ARROWaRIGHTWARDS QUADRUPLE ARROWbEVERSE TILDE OPERATOR ABOVE RIGHTWARDS ARROW",
   "bIGHTWARDS ARROW ABOVE REVERSE ALMOST EQUAL TOaTILDE OPERATOR ABOVE LEFTWARDS ARROWaLEFTWARDS",
   " ARROW ABOVE ALMOST EQUAL TOwREVERSE TILDE OPERATORaRIGHTWARDS ARROW ABOVE REVERSE TILDE OPER",
   "ATORaDOWNWARDS TRIANGLE-HEADED ZIGZAG ARROWaSHORT SLANTED NORTH ARROWgBACKSLANTED SOUTH ARROW",
   "aWHITE MEDIUM STARaBLACK SMALL STARaWHITE SMALL STARaBLACK RIGHT-POINTING PENTAGONaWHITE RIGH",
   "T-POINTING PENTAGONaHEAVY LARGE CIRCLEgOVAL WITH OVAL INSIDEgCIRCLE WITH CIRCLE INSIDElEmD SA",
   "LTIREaSLANTED NORTH ARROW WITH HOOKED HEADaBACKSLANTED SOUTH ARROW WITH HOOKED TAILaSLANTED N",
   "ORTH ARROW WITH HORIZONTAL TAILaBACKSLANTED SOUTH ARROW WITH HORIZONTAL TAILbENT ARROW POINTI",
   "NG DOWNWARDS THEN NORTH EASTaSHORT BENT ARROW POINTING DOWNWARDS THEN NORTH EASTaLEFTWARDS TR",
   "IANGLE-HEADED ARROWaUPWARDS TRIANGLE-HEADED ARROWaRIGHTWARDS TRIANGLE-HEADED ARROWaDOWNWARDS ",
   "TRIANGLE-HEADED ARROWaLEFT RIGHT TRIANGLE-HEADED ARROWaUP DOWN TRIANGLE-HEADED ARROWaNORTH WE",
   "ST TRIANGLE-HEADED ARROWgEAST TRIANGLE-HEADED ARROWaSOUTH EAST TRIANGLE-HEADED ARROWgWEST TRI",
   "ANGLE-HEADED ARROWaLEFTWARDS TRIANGLE-HEADED DASHED ARROWaUPWARDS TRIANGLE-HEADED DASHED ARRO",
   "WaRIGHTWARDS TRIANGLE-HEADED DASHED ARROWaDOWNWARDS TRIANGLE-HEADED DASHED ARROWaCLOCKWISE TR",
   "IANGLE-HEADED OPEN CIRCLE ARROWaANTICLOCKWISE TRIANGLE-HEADED OPEN CIRCLE ARROWaLEFTWARDS TRI",
   "ANGLE-HEADED ARROW TO BARaUPWARDS TRIANGLE-HEADED ARROW TO BARaRIGHTWARDS TRIANGLE-HEADED ARR",
   "OW TO BARaDOWNWARDS TRIANGLE-HEADED ARROW TO BAR@11126aNORTH WEST TRIANGLE-HEADED ARROW TO BA",
   "RgEAST TRIANGLE-HEADED ARROW TO BARaSOUTH EAST TRIANGLE-HEADED ARROW TO BARgWEST TRIANGLE-HEA",
   "DED ARROW TO BARaLEFTWARDS TRIANGLE-HEADED ARROW WITH DOUBLE HORIZONTAL STROKEaUPWARDS TRIANG",
   "LE-HEADED ARROW WITH DOUBLE HORIZONTAL STROKEaRIGHTWARDS TRIANGLE-HEADED ARROW WITH DOUBLE HO",
   "RIZONTAL STROKEaDOWNWARDS TRIANGLE-HEADED ARROW WITH DOUBLE HORIZONTAL STROKEaHORIZONTAL TAB ",
   "KEYaVERTICAL TAB KEYaLEFTWARDS TRIANGLE-HEADED ARROW OVER RIGHTWARDS TRIANGLE-HEADED ARROWaUP",
   "WARDS TRIANGLE-HEADED ARROW LEFTWARDS OF DOWNWARDS TRIANGLE-HEADED ARROWaRIGHTWARDS TRIANGLE-",
   "HEADED ARROW OVER LEFTWARDS TRIANGLE-HEADED ARROWaDOWNWARDS TRIANGLE-HEADED ARROW LEFTWARDS O",
   "F UPWARDS TRIANGLE-HEADED ARROWaLEFTWARDS TRIANGLE-HEADED PAIRED ARROWSaUPWARDS TRIANGLE-HEAD",
   "ED PAIRED ARROWSaRIGHTWARDS TRIANGLE-HEADED PAIRED ARROWSaDOWNWARDS TRIANGLE-HEADED PAIRED AR",
   "ROWSaLEFTWARDS BLACK CIRCLED WHITE ARROWaUPWARDS BLACK CIRCLED WHITE ARROWaRIGHTWARDS BLACK C",
   "IRCLED WHITE ARROWaDOWNWARDS BLACK CIRCLED WHITE ARROWaANTICLOCKWISE TRIANGLE-HEADED RIGHT U-",
   "SHAPED ARROWbeBOTTOM U-SHAPED ARROWbeLEFT U-SHAPED ARROWbeTOP U-SHAPED ARROWaRETURN LEFThRIGH",
   "TaNEWLINE LEFTiRIGHTaFOUR CORNER ARROWS CIRCLING ANTICLOCKWISEaRIGHTWARDS BLACK ARROW@11159aS",
   "YMBOL FOR TYPE A ELECTRONICSaTHREE-D TOP-LIGHTED LEFTWARDS EQUILATERAL ARROWHEADiRIGHT-LIGHTE",
   "D UPWARDS EQUILATERAL ARROWHEADiTOP-LIGHTED RIGHTWARDS EQUILATERAL ARROWHEADiLEFT-LIGHTED DOW",
   "NWARDS EQUILATERAL ARROWHEADaBLACK LEFTWARDS EQUILATERAL ARROWHEADgUPWARDS EQUILATERAL ARROWH",
   "EADgRIGHTWARDS EQUILATERAL ARROWHEADgDOWNWARDS EQUILATERAL ARROWHEADaDOWNWARDS TRIANGLE-HEADE",
   "D ARROW WITH LONG TIP LEFTWARDSbuRIGHTWARDSaUPWARDS TRIANGLE-HEADED ARROW WITH LONG TIP LEFTW",
   "ARDSbsRIGHTWARDSaLEFTWARDS TRIANGLE-HEADED ARROW WITH LONG TIP UPWARDSaRIGHTWARDS TRIANGLE-HE",
   "ADED ARROW WITH LONG TIP UPWARDSaLEFTWARDS TRIANGLE-HEADED ARROW WITH LONG TIP DOWNWARDSaRIGH",
   "TWARDS TRIANGLE-HEADED ARROW WITH LONG TIP DOWNWARDSaBLACK CURVED DOWNWARDS AND LEFTWARDS ARR",
   "OWbbRIGHTWARDS ARROWnUPWARDS AND LEFTWARDS ARROWzRIGHTWARDS ARROWnLEFTWARDS AND UPWARDS ARROW",
   "nRIGHTWARDS AND UPWARDS ARROWnLEFTWARDS AND DOWNWARDS ARROWnRIGHTWARDS AND DOWNWARDS ARROWaRI",
   "BBON ARROW DOWN LEFTsRIGHTnUP LEFTqRIGHTnLEFT UPnRIGHT UPnLEFT DOWNnRIGHT DOWNaUPWARDS WHITE ",
   "ARROW FROM BAR WITH HORIZONTAL BARc ARROWHEAD IN A RECTANGLE BOXaOVERLAPPING WHITE SQUARESsAN",
   "D BLACK SQUARESmBLACK SQUARESaBALLOT BOX WITH LIGHT XaCIRCLED XiBOLD XaBLACK SQUARE CENTREDgD",
   "IAMOND CENTREDaTURNED BLACK PENTAGONaHORIZONTAL BLACK OCTAGONaBLACK OCTAGONgMEDIUM UP-POINTIN",
   "G TRIANGLE CENTREDnDOWN-POINTING TRIANGLE CENTREDnLEFT-POINTING TRIANGLE CENTREDnRIGHT-POINTI",
   "NG TRIANGLE CENTREDaNEPTUNE FORM TWOaTOP HALF BLACK CIRCLEaBOTTOM HALF BLACK CIRCLEaLIGHT FOU",
   "R POINTED BLACK CUSPaROTATED LIGHT FOUR POINTED BLACK CUSPaWHITE FOUR POINTED CUSPaROTATED WH",
   "ITE FOUR POINTED CUSPaSQUARE POSITION INDICATORaUNCERTAINTY SIGNaGROUP MARKaPLUTO FORM TWOmHR",
   "EElFOURmIVEaTRANSPLUTOaPROSERPINAaASTRAEAaHYGIEAaPHOLUSaNESSUSaWHITE MOON SELENAaBLACK DIAMON",
   "D ON CROSSaTRUE LIGHT MOON ARTAaCUPIDOaHADESaZEUSaKRONOSaAPOLLONbDMETOSaVULCANUSaPOSEIDONaLEF",
   "T HALF BLACK STARaRIGHT HALF BLACK STARaSTAR WITH LEFT HALF BLACKkRIGHT HALF BLACKaLEFTWARDS ",
   "TWO-HEADED ARROW WITH TRIANGLE ARROWHEADSaUPWARDS TWO-HEADED ARROW WITH TRIANGLE ARROWHEADSaR",
   "IGHTWARDS TWO-HEADED ARROW WITH TRIANGLE ARROWHEADSaDOWNWARDS TWO-HEADED ARROW WITH TRIANGLE ",
   "ARROWHEADSaERIS FORM ONEkTWOaSEDNAaRUSSIAN ASTROLOGICAL SYMBOL VIGINTILEbcNOVILEbcQUINTILEbcB",
   "INOVILEbcSENTAGONbcTREDECILEaEQUALS SIGN WITH INFINITY BELOWaUNITED SYMBOLaSEPARATED SYMBOLaD",
   "OUBLED SYMBOLaPASSED SYMBOLaREVERSED RIGHT ANGLEaHELLSCHREIBER PAUSE SYMBOLaGLAGOLITIC CAPITA",
   "L LETTER AZUbaBUKYbaVEDEbaGLAGOLIbaDOBRObaYESTUbaZHIVETEbaDZELObaZEMLJAbaIZHEbbNITIAL IZHEbaI",
   "baDJERVIbaKAKObaLJUDIJEbaMYSLITEbaNASHIbaONUbaPOKOJIbaRITSIbaSLOVObaTVRIDObaUKUbaFRITUbaHERUb",
   "aOTUbaPEbaSHTAbaTSIbaCHRIVIbaSHAbaYERUbdIbbATIbaSPIDERY HAbaYUbaSMALL YUSbj WITH TAILbaYObaIO",
   "TATED SMALL YUSbaBIG YUSbaIOTATED BIG YUSbaFITAbaIZHITSAbaSHTAPICbaTROKUTASTI AbaLATINATE MYS",
   "LITEbaCAUDATE CHRIVIlSMALL LETTER AZUyBUKYyVEDEyGLAGOLIyDOBROyYESTUyZHIVETEyDZELOyZEMLJAyIZHE",
   "zNITIAL IZHEyIyDJERVIyKAKOyLJUDIJEyMYSLITEyNASHIyONUyPOKOJIyRITSIySLOVOyTVRIDOyUKUyFRITUyHERU",
   "yOTUyPEySHTAyTSIyCHRIVIySHAyYERUbbIzATIySPIDERY HAyYUySMALL YUSbh WITH TAILyYOyIOTATED SMALL ",
   "YUSyBIG YUSyIOTATED BIG YUSyFITAyIZHITSAySHTAPICyTROKUTASTI AyLATINATE MYSLITEyCAUDATE CHRIVI",
   "aLATIN CAPITAL LETTER L WITH DOUBLE BARgSMALL LETTER L WITH DOUBLE BARgCAPITAL LETTER L WITH ",
   "MIDDLE TILDEvP WITH STROKEvR WITH TAILgSMALL LETTER A WITH STROKEtT WITH DIAGONAL STROKEgCAPI",
   "TAL LETTER H WITH DESCENDERgSMALL LETTER H WITH DESCENDERgCAPITAL LETTER K WITH DESCENDERgSMA",
   "LL LETTER K WITH DESCENDERgCAPITAL LETTER Z WITH DESCENDERgSMALL LETTER Z WITH DESCENDERgCAPI",
   "TAL LETTER ALPHAvM WITH HOOKvTURNED AbdLPHAgSMALL LETTER V WITH RIGHT HOOKgCAPITAL LETTER W W",
   "ITH HOOKgSMALL LETTER W WITH HOOKtV WITH CURLgCAPITAL LETTER HALF HgSMALL LETTER HALF HtTAILL",
   "ESS PHItE WITH NOTCHtTURNED R WITH TAILtO WITH LOW RING INSIDEgLETTER SMALL CAPITAL TURNED Eg",
   "SUBSCRIPT SMALL LETTER JaMODIFIER LETTER CAPITAL VaLATIN CAPITAL LETTER S WITH SWASH TAILvZ W",
   "ITH SWASH TAILaCOPTIC CAPITAL LETTER ALFAhSMALL LETTER ALFAhCAPITAL LETTER VIDAhSMALL LETTER ",
   "VIDAhCAPITAL LETTER GAMMAhSMALL LETTER GAMMAhCAPITAL LETTER DALDAhSMALL LETTER DALDAhCAPITAL ",
   "LETTER EIEhSMALL LETTER EIEhCAPITAL LETTER SOUhSMALL LETTER SOUhCAPITAL LETTER ZATAhSMALL LET",
   "TER ZATAhCAPITAL LETTER HATEhSMALL LETTER HATEhCAPITAL LETTER THETHEhSMALL LETTER THETHEhCAPI",
   "TAL LETTER IAUDAhSMALL LETTER IAUDAhCAPITAL LETTER KAPAhSMALL LETTER KAPAhCAPITAL LETTER LAUL",
   "AhSMALL LETTER LAULAhCAPITAL LETTER MIhSMALL LETTER MIhCAPITAL LETTER NIhSMALL LETTER NIhCAPI",
   "TAL LETTER KSIhSMALL LETTER KSIhCAPITAL LETTER OhSMALL LETTER OhCAPITAL LETTER PIhSMALL LETTE",
   "R PIhCAPITAL LETTER ROhSMALL LETTER ROhCAPITAL LETTER SIMAhSMALL LETTER SIMAhCAPITAL LETTER T",
   "AUhSMALL LETTER TAUhCAPITAL LETTER UAhSMALL LETTER UAhCAPITAL LETTER FIhSMALL LETTER FIhCAPIT",
   "AL LETTER KHIhSMALL LETTER KHIhCAPITAL LETTER PSIhSMALL LETTER PSIhCAPITAL LETTER OOUhSMALL L",
   "ETTER OOUhCAPITAL LETTER DIALECT-P ALEFhSMALL LETTER DIALECT-P ALEFhCAPITAL LETTER OLD COPTIC",
   " AINhSMALL LETTER OLD COPTIC AINhCAPITAL LETTER CRYPTOGRAMMIC EIEhSMALL LETTER CRYPTOGRAMMIC ",
   "EIEhCAPITAL LETTER DIALECT-P KAPAhSMALL LETTER DIALECT-P KAPAhCAPITAL LETTER DIALECT-P NIhSMA",
   "LL LETTER DIALECT-P NIhCAPITAL LETTER CRYPTOGRAMMIC NIhSMALL LETTER CRYPTOGRAMMIC NIhCAPITAL ",
   "LETTER OLD COPTIC OOUhSMALL LETTER OLD COPTIC OOUhCAPITAL LETTER SAMPIhSMALL LETTER SAMPIhCAP",
   "ITAL LETTER CROSSED SHEIhSMALL LETTER CROSSED SHEIhCAPITAL LETTER OLD COPTIC SHEIhSMALL LETTE",
   "R OLD COPTIC SHEIhCAPITAL LETTER OLD COPTIC ESHhSMALL LETTER OLD COPTIC ESHhCAPITAL LETTER AK",
   "HMIMIC KHEIhSMALL LETTER AKHMIMIC KHEIhCAPITAL LETTER DIALECT-P HORIhSMALL LETTER DIALECT-P H",
   "ORIhCAPITAL LETTER OLD COPTIC HORIhSMALL LETTER OLD COPTIC HORIhCAPITAL LETTER OLD COPTIC HAh",
   "SMALL LETTER OLD COPTIC HAhCAPITAL LETTER L-SHAPED HAhSMALL LETTER L-SHAPED HAhCAPITAL LETTER",
   " OLD COPTIC HEIhSMALL LETTER OLD COPTIC HEIhCAPITAL LETTER OLD COPTIC HAThSMALL LETTER OLD CO",
   "PTIC HAThCAPITAL LETTER OLD COPTIC GANGIAhSMALL LETTER OLD COPTIC GANGIAhCAPITAL LETTER OLD C",
   "OPTIC DJAhSMALL LETTER OLD COPTIC DJAhCAPITAL LETTER OLD COPTIC SHIMAhSMALL LETTER OLD COPTIC",
   " SHIMAhCAPITAL LETTER OLD NUBIAN SHIMAhSMALL LETTER OLD NUBIAN SHIMAhCAPITAL LETTER OLD NUBIA",
   "N NGIhSMALL LETTER OLD NUBIAN NGIhCAPITAL LETTER OLD NUBIAN NYIhSMALL LETTER OLD NUBIAN NYIhC",
   "APITAL LETTER OLD NUBIAN WAUhSMALL LETTER OLD NUBIAN WAUiYMBOL KAIoMI ROoPI ROoSTAUROSoTAU RO",
   "oKHI ROoSHIMA SIMAhCAPITAL LETTER CRYPTOGRAMMIC SHEIhSMALL LETTER CRYPTOGRAMMIC SHEIhCAPITAL ",
   "LETTER CRYPTOGRAMMIC GANGIAhSMALL LETTER CRYPTOGRAMMIC GANGIAhCOMBINING NI ABOVErSPIRITUS ASP",
   "ERbaLENISiAPITAL LETTER BOHAIRIC KHEIhSMALL LETTER BOHAIRIC KHEI@11513hOLD NUBIAN FULL STOPsD",
   "IRECT QUESTION MARKsINDIRECT QUESTION MARKsVERSE DIVIDERhFRACTION ONE HALFiULL STOPhMORPHOLOG",
   "ICAL DIVIDERaGEORGIAN SMALL LETTER ANwBANwGANwDONwENwVINwZENwTANwINwKANwLASwMANwNARwONwPARwZH",
   "ARwRAEwSANwTARwUNwPHARwKHARwGHANwQARwSHINwCHINxANwJILwCILxHARwXANwJHANwHAExExIEwWEwHARxOE@115",
   "59wYN@11565wAEN@11568aTIFINAGH LETTER YAsBtHsGtHHqBERBER ACADEMY YAJqYAJsDtHtDuHrEYrAFsKqTUAR",
   "EG YAKqYAKHHsHqBERBER ACADEMY YAHqTUAREG YAHqYAHHsAsKHqTUAREG YAKHqYAQqTUAREG YAQqYIrAZHqAHAG",
   "GAR YAZHqTUAREG YAZHqYALsMsNqTUAREG YAGNzNGqYAPrUrARtRsGHqTUAREG YAGHqAYER YAGHqYAStStHsTtHsC",
   "HsTTsVsWsYsZqTAWELLEMET YAZqYAZZrErO@11631jMODIFIER LETTER LABIALIZATION MARKjSEPARATOR MARK@",
   "11647jCONSONANT JOINERaETHIOPIC SYLLABLE LOAsMOAsROAsSOAtHOAsBOAsTOAsCOAsNOAtYOAsGLOTTAL OAsZ",
   "OAsDOAtDOAsJOAsTHOAsCHOAsPHOAtOAsGGWAvIvEEvE@11680sSSAuUuIuAAuEEuEuO@11688sCCAuUuIuAAuEEuEuO@",
   "11696sZZAuUuIuAAuEEuEuO@11704sCCHAvUvIvAAvEEvEvO@11712sQYAuUuIuAAuEEuEuO@11720sKYAuUuIuAAuEEu",
   "EuO@11728sXYAuUuIuAAuEEuEuO@11736sGYAuUuIuAAuEEuEuO@11744aCOMBINING CYRILLIC LETTER BEbaVEbaG",
   "HEbaDEbaZHEbbEbaKAbaELbbMbbNbaObaPEbaERbbSbaTEbaHAbaTSEbaCHEbaSHAbcCHAbaFITAbaES-TEbaAbaIEbaD",
   "JERVbaMONOGRAPH UKbaYATbbUbaIOTIFIED AbaLITTLE YUSbaBIG YUSbaIOTIFIED BIG YUSaRIGHT ANGLE SUB",
   "STITUTION MARKERmDOTTED SUBSTITUTION MARKERaLEFT SUBSTITUTION BRACKETaRIGHT SUBSTITUTION BRAC",
   "KETaLEFT DOTTED SUBSTITUTION BRACKETaRIGHT DOTTED SUBSTITUTION BRACKETbAISED INTERPOLATION MA",
   "RKERhDOTTED INTERPOLATION MARKERaDOTTED TRANSPOSITION MARKERaLEFT TRANSPOSITION BRACKETaRIGHT",
   " TRANSPOSITION BRACKETbAISED SQUAREaLEFT RAISED OMISSION BRACKETaRIGHT RAISED OMISSION BRACKE",
   "TaEDITORIAL CORONISaPARAGRAPHOSaFORKED PARAGRAPHOSaREVERSED FORKED PARAGRAPHOSaHYPODIASTOLEaD",
   "OTTED OBELOScWNWARDS ANCORAaUPWARDS ANCORAaDOTTED RIGHT-POINTING ANGLEcUBLE OBLIQUE HYPHENaIN",
   "VERTED INTERROBANGaPALM BRANCHaHYPHEN WITH DIAERESISaTILDE WITH RING ABOVEaLEFT LOW PARAPHRAS",
   "E BRACKETaRIGHT LOW PARAPHRASE BRACKETaTILDE WITH DOT ABOVEpBELOWaLEFT VERTICAL BAR WITH QUIL",
   "LaRIGHT VERTICAL BAR WITH QUILLaTOP LEFT HALF BRACKETeRIGHT HALF BRACKETaBOTTOM LEFT HALF BRA",
   "CKEThRIGHT HALF BRACKETaLEFT SIDEWAYS U BRACKETaRIGHT SIDEWAYS U BRACKETaLEFT DOUBLE PARENTHE",
   "SISaRIGHT DOUBLE PARENTHESISaTWO DOTS OVER ONE DOT PUNCTUATIONaONE DOT OVER TWO DOTS PUNCTUAT",
   "IONaSQUARED FOUR DOT PUNCTUATIONaFIVE DOT MARKaREVERSED QUESTION MARKaVERTICAL TILDEaRING POI",
   "NTaWORD SEPARATOR MIDDLE DOTaTURNED COMMAaRAISED DOThCOMMAaTURNED SEMICOLONaDAGGER WITH LEFT ",
   "GUARDmRIGHT GUARDaTURNED DAGGERbOP HALF SECTION SIGNbWO-EM DASHbHREE-EM DASHaSTENOGRAPHIC FUL",
   "L STOPaVERTICAL SIX DOTSaWIGGLY VERTICAL LINEaCAPITULUMaDOUBLE HYPHENaREVERSED COMMAaDOUBLE L",
   "OW-REVERSED-9 QUOTATION MARKbASH WITH LEFT UPTURNbOUBLE SUSPENSION MARKaINVERTED LOW KAVYKAt ",
   "WITH KAVYKA ABOVEaLOW KAVYKAk WITH DOTaDOUBLE STACKED COMMAcTTED SOLIDUSaTRIPLE DAGGERaMEDIEV",
   "AL COMMAaPARAGRAPHUS MARKbUNCTUS ELEVATUS MARKaCORNISH VERSE DIVIDERbROSS PATTY WITH RIGHT CR",
   "OSSBARrLEFT CROSSBARaTIRONIAN SIGN CAPITAL ETaMEDIEVAL EXCLAMATION MARKjQUESTION MARKaLEFT SQ",
   "UARE BRACKET WITH STROKEaRIGHT SQUARE BRACKET WITH STROKEaLEFT SQUARE BRACKET WITH DOUBLE STR",
   "OKEaRIGHT SQUARE BRACKET WITH DOUBLE STROKEaTOP HALF LEFT PARENTHESISjRIGHT PARENTHESISaBOTTO",
   "M HALF LEFT PARENTHESISmRIGHT PARENTHESISaOBLIQUE HYPHEN@11904aCJK RADICAL REPEATmCLIFFmSECON",
   "D ONEtTWOuHREEmPERSONmBOXmTABLEmKNIFE ONEsTWOmDIVINATIONmSEALnMALL ONEsTWOmLAME ONErTWOsHREEr",
   "FOURmSNAKEmTHREADmSNOUT ONEsTWOmHEART ONEsTWOnANDmRAP@11931mCHOKEmSUNmMOONmDEATHmMOTHERmCIVIL",
   "IANmWATER ONEsTWOmFIREmPAW ONEqTWOmSIMPLIFIED HALF TREE TRUNKmCOWmDOGmJADEmBOLT OF CLOTHmEYEm",
   "SPIRIT ONEtTWOmBAMBOOmSILKmC-SIMPLIFIED SILKmNET ONEqTWOrHREEqFOURmMESHmSHEEPmRAMmEWEmOLDmBRU",
   "SH ONEsTWOmMEATnORTARmGRASS ONEsTWOtHREEmTIGERmCLOTHESmWEST ONErTWOmC-SIMPLIFIED SEEmSIMPLIFI",
   "ED HORNmHORNmC-SIMPLIFIED SPEECHbaHELLmFOOTmC-SIMPLIFIED CARTmSIMPLIFIED WALKmWALK ONErTWOmCI",
   "TYn-SIMPLIFIED GOLDmLONG ONErTWOmC-SIMPLIFIED LONGzGATEmMOUND ONEsTWOmRAINmBLUEmC-SIMPLIFIED ",
   "TANNED LEATHERzLEAFzWINDzFLYmEAT ONEqTWOrHREEmC-SIMPLIFIED EATmHEADmC-SIMPLIFIED HORSEmBONEmG",
   "HOSTmC-SIMPLIFIED FISHzBIRDzSALTmSIMPLIFIED WHEATxYELLOWmC-SIMPLIFIED FROGmJ-SIMPLIFIED EVENm",
   "C-SIMPLIFIED EVENmJ-SIMPLIFIED TOOTHmC-SIMPLIFIED TOOTHmJ-SIMPLIFIED DRAGONmC-SIMPLIFIED DRAG",
   "ONmTURTLEmJ-SIMPLIFIED TURTLEmC-SIMPLIFIED TURTLE@12032aKANGXI RADICAL ONEpLINEpDOTpSLASHqECO",
   "NDpHOOKpTWOpLIDpMANpLEGSpENTERqIGHTpDOWN BOXpCOVERpICEpTABLEpOPEN BOXpKNIFEpPOWERpWRAPpSPOONp",
   "RIGHT OPEN BOXpHIDING ENCLOSUREpTENpDIVINATIONpSEALpCLIFFpPRIVATEpAGAINpMOUTHpENCLOSUREqARTHp",
   "SCHOLARpGOr SLOWLYpEVENINGpBIGpWOMANpCHILDpROOFpINCHpSMALLpLAMEpCORPSEpSPROUTpMOUNTAINpRIVERp",
   "WORKpONESELFpTURBANpDRYpSHORT THREADpDOTTED CLIFFpLONG STRIDEpTWO HANDSpSHOOTpBOWpSNOUTpBRIST",
   "LEpSTEPpHEARTqALBERDpDOORpHANDpBRANCHpRAPpSCRIPTpDIPPERpAXEpSQUAREpNOTpSUNqAYpMOONpTREEpLACKp",
   "STOPpDEATHpWEAPONpDO NOTpCOMPAREpFURpCLANpSTEAMpWATERpFIREpCLAWpFATHERpDOUBLE XpHALF TREE TRU",
   "NKpSLICEpFANGpCOWpDOGpPROFOUNDpJADEpMELONpTILEpSWEETpLIFEpUSEpFIELDpBOLT OF CLOTHpSICKNESSpDO",
   "TTED TENTpWHITEpSKINpDISHpEYEpSPEARpARROWpSTONEqPIRITpTRACKpGRAINpCAVEpSTANDpBAMBOOpRICEpSILK",
   "pJARpNETpSHEEPpFEATHERpOLDpANDpPLOWpEARpBRUSHpMEATqINISTERpSELFpARRIVEpMORTARpTONGUEpOPPOSEpB",
   "OATpSTOPPINGpCOLORpGRASSpTIGERpINSECTpBLOODpWALK ENCLOSUREpCLOTHESpWESTpSEEpHORNpSPEECHpVALLE",
   "YpBEANpPIGpBADGERpSHELLpREDqUNpFOOTpBODYpCARTpBITTERpMORNINGpWALKpCITYpWINEpDISTINGUISHpVILLA",
   "GEpGOLDpLONGpGATEpMOUNDpSLAVEqHORT TAILED BIRDpRAINpBLUEpWRONGpFACEpLEATHERpTANNED LEATHERpLE",
   "EKpSOUNDpLEAFpWINDpFLYpEATpHEADpFRAGRANTpHORSEpBONEpTALLpHAIRpFIGHTpSACRIFICIAL WINEpCAULDRON",
   "pGHOSTpFISHpBIRDpSALTpDEERpWHEATpHEMPpYELLOWpMILLETpBLACKpEMBROIDERYpFROGpTRIPODpDRUMpRATpNOS",
   "EpEVENpTOOTHpDRAGONpTURTLEpFLUTE@12272aIDEOGRAPHIC DESCRIPTION CHARACTER LEFT TO RIGHTbiABOVE",
   " TO BELOWbiLEFT TO MIDDLE AND RIGHTbiABOVE TO MIDDLE AND BELOWbiFULL SURROUNDbiSURROUND FROM ",
   "ABOVEbwBELOWbwLEFTbwUPPER LEFTccRIGHTbwLOWER LEFTbiOVERLAID@12288mSPACEmCOMMAmFULL STOPaDITTO",
   " MARKaJAPANESE INDUSTRIAL STANDARD SYMBOLaIDEOGRAPHIC ITERATION MARKmCLOSING MARKmNUMBER ZERO",
   "aLEFT ANGLE BRACKETaRIGHT ANGLE BRACKETaLEFT DOUBLE ANGLE BRACKETaRIGHT DOUBLE ANGLE BRACKETa",
   "LEFT CORNER BRACKETaRIGHT CORNER BRACKETaLEFT WHITE CORNER BRACKETaRIGHT WHITE CORNER BRACKET",
   "aLEFT BLACK LENTICULAR BRACKETaRIGHT BLACK LENTICULAR BRACKETaPOSTAL MARKaGETA MARKaLEFT TORT",
   "OISE SHELL BRACKETaRIGHT TORTOISE SHELL BRACKETaLEFT WHITE LENTICULAR BRACKETaRIGHT WHITE LEN",
   "TICULAR BRACKETaLEFT WHITE TORTOISE SHELL BRACKETaRIGHT WHITE TORTOISE SHELL BRACKETaLEFT WHI",
   "TE SQUARE BRACKETaRIGHT WHITE SQUARE BRACKETaWAVE DASHaREVERSED DOUBLE PRIME QUOTATION MARKaD",
   "OUBLE PRIME QUOTATION MARKaLOW DOUBLE PRIME QUOTATION MARKaPOSTAL MARK FACEaHANGZHOU NUMERAL ",
   "ONErTWOsHREErFOURsIVErSIXsEVENrEIGHTrNINEaIDEOGRAPHIC LEVEL TONE MARKmRISING TONE MARKmDEPART",
   "ING TONE MARKmENTERING TONE MARKaHANGUL SINGLE DOT TONE MARKhDOUBLE DOT TONE MARKaWAVY DASHaV",
   "ERTICAL KANA REPEAT MARKvWITH VOICED SOUND MARKvMARK UPPER HALFvWITH VOICED SOUND MARK UPPER ",
   "HALFvMARK LOWER HALFaCIRCLED POSTAL MARKaIDEOGRAPHIC TELEGRAPH LINE FEED SEPARATOR SYMBOLaHAN",
   "GZHOU NUMERAL TENsWENTYsHIRTYaVERTICAL IDEOGRAPHIC ITERATION MARKaMASU MARKaPART ALTERNATION ",
   "MARKaIDEOGRAPHIC VARIATION INDICATORmHALF FILL SPACE@12353aHIRAGANA LETTER SMALL AqAqSMALL Iq",
   "IqSMALL UqUqSMALL EqEqSMALL OqOqKAqGAqKIqGIqKUqGUqKEqGEqKOqGOqSAqZAqSIqZIqSUqZUqSEqZEqSOqZOqT",
   "AqDAqTIqDIqSMALL TUqTUqDUqTEqDEqTOqDOqNArIrUrErOqHAqBAqPAqHIqBIqPIqHUqBUqPUqHEqBEqPEqHOqBOqPO",
   "qMArIrUrErOqSMALL YAqYAqSMALL YUqYUqSMALL YOqYOqRArIrUrErOqSMALL WAqWArIrErOqNqVUqSMALL KAxE@",
   "12441aCOMBINING KATAKANA-HIRAGANA VOICED SOUND MARKbcSEMI-VOICED SOUND MARKaKATAKANA-HIRAGANA",
   " VOICED SOUND MARKsSEMI-VOICED SOUND MARKaHIRAGANA ITERATION MARKjVOICED ITERATION MARKjDIGRA",
   "PH YORIaKATAKANA-HIRAGANA DOUBLE HYPHENi LETTER SMALL AqAqSMALL IqIqSMALL UqUqSMALL EqEqSMALL",
   " OqOqKAqGAqKIqGIqKUqGUqKEqGEqKOqGOqSAqZAqSIqZIqSUqZUqSEqZEqSOqZOqTAqDAqTIqDIqSMALL TUqTUqDUqT",
   "EqDEqTOqDOqNArIrUrErOqHAqBAqPAqHIqBIqPIqHUqBUqPUqHEqBEqPEqHOqBOqPOqMArIrUrErOqSMALL YAqYAqSMA",
   "LL YUqYUqSMALL YOqYOqRArIrUrErOqSMALL WAqWArIrErOqNqVUqSMALL KAxEqVArIrErOjMIDDLE DOTi-HIRAGA",
   "NA PROLONGED SOUND MARKi ITERATION MARKjVOICED ITERATION MARKjDIGRAPH KOTO@12549aBOPOMOFO LET",
   "TER BqPqMqFqDqTqNqLqGqKqHqJqQqXqZHqCHqSHqRqZqCqSqAqOqErHqAIqEIqAUqOUqANqENqANGqENGrRqIqUqIUqV",
   "qNGqGNqIHqO WITH DOT ABOVEqNN@12593aHANGUL LETTER KIYEOKoSSANGKIYEOKoKIYEOK-SIOSoNIEUNt-CIEUC",
   "uHIEUHoTIKEUToSSANGTIKEUToRIEULt-KIYEOKuMIEUMuPIEUPuSIOSuTHIEUTHuPHIEUPHuHIEUHoMIEUMoPIEUPoSS",
   "ANGPIEUPoPIEUP-SIOSoSIOSpSANGSIOSoIEUNGoCIEUCoSSANGCIEUCoCHIEUCHoKHIEUKHoTHIEUTHoPHIEUPHoHIEU",
   "HoApEoYAqEoEOoEoYEOpEoOoWAqEoOEoYOoUoWEOpEpIoYUoEUoYIoIhFILLERhLETTER SSANGNIEUNoNIEUN-TIKEUT",
   "uSIOSuPANSIOSoRIEUL-KIYEOK-SIOSuTIKEUTuPIEUP-SIOSvANSIOSuYEORINHIEUHoMIEUM-PIEUPuSIOSuPANSIOS",
   "oKAPYEOUNMIEUMoPIEUP-KIYEOKuTIKEUTuSIOS-KIYEOKzTIKEUTuCIEUCuTHIEUTHoKAPYEOUNPIEUPwSSANGPIEUPo",
   "SIOS-KIYEOKtNIEUNtTIKEUTtPIEUPtCIEUCoPANSIOSoSSANGIEUNGoYESIEUNGw-SIOSxPANSIOSoKAPYEOUNPHIEUP",
   "HoSSANGHIEUHoYEORINHIEUHpO-YAtErIpU-YEOsErIoARAEAtE@12688aIDEOGRAPHIC ANNOTATION LINKING MARK",
   "xREVERSE MARKxONE MARKxTWO MARKyHREE MARKxFOUR MARKxTOP MARKxMIDDLE MARKxBOTTOM MARKxFIRST MA",
   "RKxSECOND MARKxTHIRD MARKxFOURTH MARKxHEAVEN MARKxEARTH MARKxMAN MARKaBOPOMOFO LETTER BUqZIqJ",
   "IqGUqEErNNqOOrNNqIRqANNqINNqUNNqIMqNGGqAINNrUNNrMqOMrNGqINNNjFINAL LETTER PwTwKwHjLETTER GHqL",
   "HqZYjFINAL LETTER GjLETTER GWqKWqOEqAHaCJK STROKE TlWGlXGlBXGlSWlHZZnGmPmZWGlSZWGlHZTnZPmPWGm",
   "ZWnZZlNlHlSlPlSPlDlHZmGlSZmWZmTmGlPDmZlTNlSZZmWGlHXWGmZZZGlPGlQ@12784aKATAKANA LETTER SMALL K",
   "UwSIxUwTOwNUwHAxIxUxExOwMUwRAxIxUxExOaPARENTHESIZED HANGUL KIYEOKvNIEUNvTIKEUTvRIEULvMIEUMvPI",
   "EUPvSIOSvIEUNGvCIEUCwHIEUCHvKHIEUKHvTHIEUTHvPHIEUPHvHIEUHvKIYEOK AvNIEUN AvTIKEUT AvRIEUL AvM",
   "IEUM AvPIEUP AvSIOS AvIEUNG AvCIEUC AwHIEUCH AvKHIEUKH AvTHIEUTH AvPHIEUPH AvHIEUH AvCIEUC Uo",
   "KOREAN CHARACTER OJEONbg HU@12832oIDEOGRAPH ONEyTWOzHREEyFOURzIVEySIXzEVENyEIGHTyNINEyTENyMOO",
   "NyFIREyWATERzOODyMETALyEARTHySUNzTOCKyHAVEySOCIETYyNAMEySPECIALyFINANCIALyCONGRATULATIONyLABO",
   "RyREPRESENTyCALLySTUDYzUPERVISEyENTERPRISEyRESOURCEyALLIANCEyFESTIVALyRESTySELFyREACHaCIRCLED",
   " IDEOGRAPH QUESTIONsKINDERGARTENsSCHOOLsKOTOiNUMBER TEN ON BLACK SQUAREqWENTY ON BLACK SQUARE",
   "qHIRTY ON BLACK SQUAREpFORTY ON BLACK SQUAREqIFTY ON BLACK SQUAREpSIXTY ON BLACK SQUAREqEVENT",
   "Y ON BLACK SQUAREpEIGHTY ON BLACK SQUAREaPARTNERSHIP SIGNaCIRCLED NUMBER TWENTY ONEwTWOxHREEw",
   "FOURxIVEwSIXxEVENwEIGHTwNINEqHIRTYv ONEwTWOxHREEwFOURxIVEiHANGUL KIYEOKpNIEUNpTIKEUTpRIEULpMI",
   "EUMpPIEUPpSIOSpIEUNGpCIEUCqHIEUCHpKHIEUKHpTHIEUTHpPHIEUPHpHIEUHpKIYEOK ApNIEUN ApTIKEUT ApRIE",
   "UL ApMIEUM ApPIEUP ApSIOS ApIEUNG ApCIEUC AqHIEUCH ApKHIEUKH ApTHIEUTH ApPHIEUPH ApHIEUH AiKO",
   "REAN CHARACTER CHAMKOzJUEUIiHANGUL IEUNG UaKOREAN STANDARD SYMBOLaCIRCLED IDEOGRAPH ONEsTWOtH",
   "REEsFOURtIVEsSIXtEVENsEIGHTsNINEsTENsMOONsFIREsWATERtOODsMETALsEARTHsSUNtTOCKsHAVEsSOCIETYsNA",
   "MEsSPECIALsFINANCIALsCONGRATULATIONsLABORsSECRETsMALEsFEMALEsSUITABLEsEXCELLENTsPRINTsATTENTI",
   "ONsITEMsRESTsCOPYuRRECTsHIGHsCENTREsLOWtEFTsRIGHTsMEDICINEsRELIGIONsSTUDYtUPERVISEsENTERPRISE",
   "sRESOURCEsALLIANCEsNIGHTiNUMBER THIRTY SIXxEVENwEIGHTwNINEpFORTYu ONEvTWOwHREEvFOURwIVEvSIXwE",
   "VENvEIGHTvNINEqIFTYaIDEOGRAPHIC TELEGRAPH SYMBOL FOR JANUARYbhFEBRUARYbhMARCHbhAPRILbhMAYbhJU",
   "NEbjLYbhAUGUSTbhSEPTEMBERbhOCTOBERbhNOVEMBERbhDECEMBERaSQUARE HGhERGiVaLIMITED LIABILITY SIGN",
   "aCIRCLED KATAKANA ArIrUrErOrKAsIsUsEsOrSAsIsUsEsOrTAsIsUsEsOrNAsIsUsEsOrHAsIsUsEsOrMAsIsUsEsO",
   "rYAsUsOrRAsIsUsEsOrWAsIsEsOaSQUARE ERA NAME REIWAhAPAATOiRUHUAiNPEAiARUhININGUjTIhUONhESUKUUD",
   "OiEKAAhONSUiOMUhKAIRIjRATTOkORIIhGARONjNMAiIGAjNIIhKYURIIhGIRUDAAhKIROlGURAMUlMEETORUlWATTOhG",
   "URAMUnTONhKURUZEIROkOONEiEESUiORUNAjOPOhSAIKURUjNTIIMUiIRINGUiENTIlOhDAASUiESIiORUhTONhNANOiO",
   "TTOhHAITUhPAASENTOkTUhBAARERUhPIASUTORUjKURUkOhBIRUhHUARADDOjIITOhBUSSYERUhHURANiEKUTAARUhPES",
   "OjNIHIhHERUTUhPENSUjEZIhBEETAhPOINTOhBORUTOhHONhPONDOhHOORUkNhMAIKUROkRUjHHAjRUKUjNSYONiIKURO",
   "NjRIlBAARUiEGAlTONjETORUhYAADOkRUiUANhRITTORUjRAiUPIIjUBURUiEMUjNTOGENhWATTOaIDEOGRAPHIC TELE",
   "GRAPH SYMBOL FOR HOUR ZERObmONEbmTWObnHREEbmFOURbnIVEbmSIXbnEVENbmEIGHTbmNINEbmTENbmELEVENbmT",
   "WELVEbnHIRTEENbmFOURTEENbnIFTEENbmSIXTEENbnEVENTEENbmEIGHTEENbmNINETEENbmTWENTYbs-ONEbtTWObuH",
   "REEbtFOURaSQUARE HPAhDAhAUhBARhOVhPChDMj SQUAREDkCUBEDhIUhERA NAME HEISEIqSYOUWAqTAISYOUqMEIZ",
   "IhCORPORATIONhPA AMPShNAhMU AiAhKAiBhMBhGBhCALhKCALhPFhNFhMU FkGiGhKGhHZhKHZhMHZhGHZhTHZhMU L",
   "iLhDLhKLhFMhNMhMU MiMhCMhKMhMM SQUAREDhCM SQUAREDhM SQUAREDhKM SQUAREDhMM CUBEDhCM CUBEDhM CU",
   "BEDhKM CUBEDhM OVER Sp SQUAREDhPAhKPAhMPAhGPAhRADk OVER Sr SQUAREDhPShNShMU SiShPVhNVhMU ViVh",
   "KVhMV MEGAhPWhNWhMU WiWhKWhMW MEGAhK OHMhM OHMhAMhBQhCCiDi OVER KGiOhDBhGYhHAiPhINhKKiM CAPIT",
   "ALiThLMiNiOGiXhMB SMALLiILiOLhPHiMiPMiRhSRiVhWBhV OVER MhA OVER MaIDEOGRAPHIC TELEGRAPH SYMBO",
   "L FOR DAY ONEblTWObmHREEblFOURbmIVEblSIXbmEVENblEIGHTblNINEblTENblELEVENblTWELVEbmHIRTEENblFO",
   "URTEENbmIFTEENblSIXTEENbmEVENTEENblEIGHTEENblNINETEENblTWENTYbr-ONEbsTWObtHREEbsFOURbtIVEbsSI",
   "XbtEVENbsEIGHTbsNINEbmHIRTYbr-ONEaSQUARE GAL@19904aHEXAGRAM FOR THE CREATIVE HEAVENrRECEPTIVE",
   " EARTHnDIFFICULTY AT THE BEGINNINGnYOUTHFUL FOLLYnWAITINGnCONFLICTnTHE ARMYnHOLDING TOGETHERn",
   "SMALL TAMINGnTREADINGnPEACEnSTANDSTILLnFELLOWSHIPnGREAT POSSESSIONnMODESTYnENTHUSIASMnFOLLOWI",
   "NGnWORK ON THE DECAYEDnAPPROACHnCONTEMPLATIONnBITING THROUGHnGRACEnSPLITTING APARTnRETURNnINN",
   "OCENCEnGREAT TAMINGnMOUTH CORNERSnGREAT PREPONDERANCEnTHE ABYSMAL WATERrCLINGING FIREnINFLUEN",
   "CEnDURATIONnRETREATnGREAT POWERnPROGRESSnDARKENING OF THE LIGHTnTHE FAMILYnOPPOSITIONoBSTRUCT",
   "IONnDELIVERANCEpCREASEnINCREASEnBREAKTHROUGHnCOMING TO MEETnGATHERING TOGETHERnPUSHING UPWARD",
   "nOPPRESSIONnTHE WELLnREVOLUTIONnTHE CAULDRONrAROUSING THUNDERrKEEPING STILL MOUNTAINnDEVELOPM",
   "ENTnTHE MARRYING MAIDENnABUNDANCEnTHE WANDERERrGENTLE WINDrJOYOUS LAKEnDISPERSIONnLIMITATIONn",
   "INNER TRUTHnSMALL PREPONDERANCEnAFTER COMPLETIONnBEFORE COMPLETION@40960aYI SYLLABLE ITnXmInP",
   "nEToXnEoPmATnXmAnPmUOXnOoPmOTnXmOnPmEXmEmWUmBIToXnIoPoETpXoEpPnAToXnAoPnUOXoOpPnOToXnOoPnEXnE",
   "oPnUToXnUoPoRXoRnYToXnYoPoRXoRmPIToXnIoPoEXoEpPnAToXnAoPnUOXoOpPnOToXnOoPnUToXnUoPoRXoRnYToXn",
   "YoPoRXoRmBBITpXoIpPpETqXpEqPoATpXoApPoUOXpOqPoOTpXoOpPoEXoEpPoUTpXoUpPpRXpRoYTpXoYpPmNBITpXoI",
   "pPpEXpEqPoATpXoApPoOTpXoOpPoUTpXoUpPpRXpRoYTpXoYpPpRXpRmHMITpXoIpPpEXpEqPoATpXoApPoUOXpOqPoOT",
   "pXoOpPoUTpXoUpPpRXpRoYXoYpPpRXpRmMIToXnIoPoEXoEpPnAToXnAoPnUOTpXoOpPnOToXnOoPnEXnEnUToXnUoPoR",
   "XoRnYToXnYoPmFIToXnIoPnAToXnAoPnOXnOoPnUToXnUoPoRXoRnYToXnYoPmVIToXnIoPoETpXoEpPnAToXnAoPnOTo",
   "XnOoPnEXoPnUToXnUoPoRXoRnYToXnYoPoRXoRmDIToXnIoPoEXoEpPnAToXnAoPnUOXoOnOToXnOoPnEXnEoPnUToXnU",
   "oPoRXoRmTIToXnIoPoEXoEpPnAToXnAoPnUOTpXoOpPnOToXnOoPnEXnEoPnUToXnUoPoRXoRmDDITpXoIpPpEXpEqPoA",
   "TpXoApPoUOXpOqPoOTpXoOpPoEXoEpPoUTpXoUpPpRXpRmNDITpXoIpPpEXpEoATpXoApPoOTpXoOpPoEXoEpPoUTpXoU",
   "pPpRXpRmHNITpXoIpPpETqXpEqPoATpXoApPoUOXpOoOTpXpPoEXoEpPoUTmNIToXnIoPoEXoEpPnAXnAoPnUOXoOpPnO",
   "ToXnOoPnEXnEoPnUToXnUoPoRXoRmHLITpXoIpPpEXpEqPoATpXoApPoUOXpOqPoOXoOpPoEXoEpPoUTpXoUpPpRXpRoY",
   "TpXoYpPpRXpRmLIToXnIoPoETpXoEpPnAToXnAoPnUOTpXoOpPnOToXnOoPnEXnEoPnUToXnUoPoRXoRnYToXnYoPoRXo",
   "RmGIToXnIoPoETpXoEpPnAToXnAoPnUOTpXoOpPnOToXnOoPnEToXnEoPnUToXnUoPoRXoRmKIToXnIoPoEXoEpPnAToX",
   "nAoPnUOXoOpPnOToXnOoPnEToXnEoPnUToXnUoPoRXoRmGGITpXoIpEXpEqPoATpXoApPoUOTqXpOqPoOTpXoOpPoETpX",
   "oEpPoUTpXoUpPpRXpRmMGIEXpEoATpXoApPoUOXpOqPoOTpXoOpPoEXoEpPoUTpXoUpPpRXpRmHXITpXoIpPpETqXpEqP",
   "oATpXoApPoUOTqXpOqPoOTpXoOpPoEXoEpPmNGIEXpEqPoATpXoApPoUOTqXpOoOTpXoOpPoEXoEpPmHIToEXoEnAToXn",
   "AoPnUOTpXoOpPnOToXnOoPnEXnEoPmWAToXnAoPnUOXoOpPnOXnOoPnEXnEoPmZIToXnIoPoEXoEpPnAToXnAoPnUOXoO",
   "pPnOToXnOoPnEXnEoPnUToXnUoPoRXoRnYToXnYoPoRXoRmCIToXnIoPoETpXoEpPnAToXnAoPnUOXoOpPnOToXnOoPnE",
   "XnEoPnUToXnUoPoRXoRnYToXnYoPoRXoRmZZITpXoIpPpETqXpEqPoATpXoApPoOXoOpPoEXoEpPoUXoUpPpRXpRoYTpX",
   "oYpPpRXpRmNZITpXoIpPpEXpEqPoATpXoApPoUOXpOoOXpPoEXoEoUXoUpPpRXpRoYTpXoYpPpRXpRmSIToXnIoPoEXoE",
   "pPnAToXnAoPnUOXoOpPnOToXnOoPnEXnEoPnUToXnUoPoRXoRnYToXnYoPoRXoRnSITpXoIpPpEXpEqPoATpXoApPoOTp",
   "XoOpPoEXoEpPoUTpXoUpPoYTpXoYpPpRXpRmZHATpXoApPoUOXpOqPoOTpXoOpPoETpXoEpPoUTpXoUpPpRXpRoYTpXoY",
   "pPpRXpRmCHATpXoApPoUOTqXpOqPoOTpXoOpPoETpXoEpPoUXoUpPpRXpRoYTpXoYpPpRXpRmRRAXoAoUOXpOoOTpXoOp",
   "PoETpXoEpPoUTpXoUpPpRXpRoYTpXoYpPpRXpRmNRATpXoApPoOXoOpPoETpXoEpPoUTpXoUpPpRXpRoYTpXoYpPpRXpR",
   "mSHATpXoApPoUOXpOqPoOTpXoOpPoETpXoEpPoUTpXoUpPpRXpRoYTpXoYpPpRXpRmRAToXnAoPnUOXoOpPnOToXnOoPn",
   "EXnEoPnUToXnUoPoRXoRnYToXnYoPoRXoRmJIToXnIoPoETpXoEpPnUOTpXoOpPnOToXnOoPnUToXnUoPoRXoRnYToXnY",
   "oPoRXoRmQIToXnIoPoETpXoEpPnUOTpXoOpPnOToXnOoPnUToXnUoPoRXoRnYToXnYoPoRXoRmJJITpXoIpPpETqXpEqP",
   "oUOXpOqPoOTpXoOpPoUTpXoUpPpRXpRoYTpXoYpPmNJITpXoIpPpETqXpEqPoUOXpOoOTpXoOpPoUXoUpPpRXpRoYTpXo",
   "YpPpRXpRnYITpXoIpPpETqXpEqPoUOXpOqPoOTpXoOpPoUTpXoUpPmXIToXnIoPoETpXoEpPnUOXoOnOToXnOoPnYToXn",
   "YoPoRXoRmYIToXnIoPoETpXoEpPnUOTpXoOpPnOToXnOoPnUToXnUoPoRXoRnYToXnYoPoRXoR@42128dRADICAL QOTl",
   "LIlKITlNYIPlCYPlSSIlGGOPmEPlMIlHXITlLYRlBBUTlMOPlYOlPUTlHXUOlTATlGAlZUPlCYTlDDURlBURlGGUOlNYO",
   "PlTUlOPlJJUTlZOTlPYTlHMOlYITlVURlSHYlVEPlZAlJOlNZUPlJJYlGOTlJJIElWOlDUlSHURlLIElCYmUOPmIPlHXO",
   "PlSHATlZURlSHOPlCHElZZIETlNBIElKE@42192aLISU LETTER BAmPAnHAmDAmTAnHAmGAmKAnHAmJAmCAnHAmDZAmT",
   "SAoHAmMAmNAmLAmSAmZHAnAmNGAmHAmXAmHHAmFAmWAmSHAmYAmGHAmAnEmEnUmImOmUnEnHmOEmTONE MYA TIrNA PO",
   "rMYA CYAvBOvNAvJEUfPUNCTUATION COMMArFULL STOPaVAI SYLLABLE EEpNnHEEnWEEqNnPEEnBHEEoEEnMBEEnK",
   "PEEnMGBEEnGBEEnFEEnVEEnTEEoHEEnDHEEpHEEnLEEnREEnDEEnNDEEnSEEoHEEnZEEoHEEnCEEnJEEnNJEEnYEEnKEE",
   "nNGGEEnGEEnMEEnNEEoYEEnIoNnHIpNnWIpNnPInBHIoInMBInKPInMGBInGBInFInVInTIoHInDHIpHInLInRInDInND",
   "InSIoHInZIoHInCInJInNJInYInKInNGGInGInMInNIoYInAoNnNGANnHApNnWApNnPAnBHAoAnMBAnKPAqNnMGBAnGBA",
   "nFAnVAnTAoHAnDHApHAnLAnRAnDAnNDAnSAoHAnZAoHAnCAnJAnNJAnYAnKApNnNGGAnGAnMAnNAoYAnOOpNnHOOnWOOq",
   "NnPOOnBHOOoOOnMBOOnKPOOnMGBOOnGBOOnFOOnVOOnTOOoHOOnDHOOpHOOnLOOnROOnDOOnNDOOnSOOoHOOnZOOoHOOn",
   "COOnJOOnNJOOnYOOnKOOnNGGOOnGOOnMOOnNOOoYOOnUoNnHUpNnWUpNnPUnBHUoUnMBUnKPUnMGBUnGBUnFUnVUnTUoH",
   "UnDHUpHUnLUnRUnDUnNDUnSUoHUnZUoHUnCUnJUnNJUnYUnKUnNGGUnGUnMUnNUoYUnOoNnNGONnHOpNnWOpNnPOnBHOo",
   "OnMBOnKPOnMGBOnGBOqNnFOnVOnTOoHOnDHOpHOnLOnROnDOnNDOnSOoHOnZOoHOnCOnJOnNJOnYOnKOnNGGOnGOnMOnN",
   "OoYOnEoNnNGENnHEpNnWEpNnPEnBHEoEnMBEnKPEqNnMGBEnGBEqNnFEnVEnTEoHEnDHEpHEnLEnREnDEnNDEnSEoHEnZ",
   "EoHEnCEnJEnNJEnYEnKEnNGGErNnGEpNnMEnNEoYEoGnLENGTHENEReCOMMAeFULL STOPeQUESTION MARKeSYLLABLE",
   " NDOLE FAtKAtSOOgMBOL FEENGlKEENGlTINGlNIIlBANGlFAAlTAAlDANGmOONGlKUNGlTONGlDO-OlJONGeDIGIT Z",
   "EROkONEkTWOlHREEkFOURlIVEkSIXlEVENkEIGHTkNINEeSYLLABLE NDOLE MAtDO@42560aCYRILLIC CAPITAL LET",
   "TER ZEMLYAjSMALL LETTER ZEMLYAjCAPITAL LETTER DZELOjSMALL LETTER DZELOjCAPITAL LETTER REVERSE",
   "D DZEjSMALL LETTER REVERSED DZEjCAPITAL LETTER IOTAjSMALL LETTER IOTAjCAPITAL LETTER DJERVjSM",
   "ALL LETTER DJERVjCAPITAL LETTER MONOGRAPH UKjSMALL LETTER MONOGRAPH UKjCAPITAL LETTER BROAD O",
   "MEGAjSMALL LETTER BROAD OMEGAjCAPITAL LETTER NEUTRAL YERjSMALL LETTER NEUTRAL YERjCAPITAL LET",
   "TER YERU WITH BACK YERjSMALL LETTER YERU WITH BACK YERjCAPITAL LETTER IOTIFIED YATjSMALL LETT",
   "ER IOTIFIED YATjCAPITAL LETTER REVERSED YUjSMALL LETTER REVERSED YUjCAPITAL LETTER IOTIFIED A",
   "jSMALL LETTER IOTIFIED AjCAPITAL LETTER CLOSED LITTLE YUSjSMALL LETTER CLOSED LITTLE YUSjCAPI",
   "TAL LETTER BLENDED YUSjSMALL LETTER BLENDED YUSjCAPITAL LETTER IOTIFIED CLOSED LITTLE YUSjSMA",
   "LL LETTER IOTIFIED CLOSED LITTLE YUSjCAPITAL LETTER YNjSMALL LETTER YNjCAPITAL LETTER REVERSE",
   "D TSEjSMALL LETTER REVERSED TSEjCAPITAL LETTER SOFT DEjSMALL LETTER SOFT DEjCAPITAL LETTER SO",
   "FT ELjSMALL LETTER SOFT ELjCAPITAL LETTER SOFT EMjSMALL LETTER SOFT EMjCAPITAL LETTER MONOCUL",
   "AR OjSMALL LETTER MONOCULAR OjCAPITAL LETTER BINOCULAR OjSMALL LETTER BINOCULAR OjCAPITAL LET",
   "TER DOUBLE MONOCULAR OjSMALL LETTER DOUBLE MONOCULAR OjLETTER MULTIOCULAR ObOMBINING CYRILLIC",
   " VZMETtTEN MILLIONS SIGNtHUNDRED MILLIONS SIGNtTHOUSAND MILLIONS SIGNaSLAVONIC ASTERISKaCOMBI",
   "NING CYRILLIC LETTER UKRAINIAN IEbaIbaYIbaUbaHARD SIGNbaYERUbaSOFT SIGNbaOMEGAtKAVYKAtPAYEROK",
   "bYRILLIC KAVYKAjPAYEROKjCAPITAL LETTER DWEjSMALL LETTER DWEjCAPITAL LETTER DZWEjSMALL LETTER ",
   "DZWEjCAPITAL LETTER ZHWEjSMALL LETTER ZHWEjCAPITAL LETTER CCHEjSMALL LETTER CCHEjCAPITAL LETT",
   "ER DZZEjSMALL LETTER DZZEjCAPITAL LETTER TE WITH MIDDLE HOOKjSMALL LETTER TE WITH MIDDLE HOOK",
   "jCAPITAL LETTER TWEjSMALL LETTER TWEjCAPITAL LETTER TSWEjSMALL LETTER TSWEjCAPITAL LETTER TSS",
   "EjSMALL LETTER TSSEjCAPITAL LETTER TCHEjSMALL LETTER TCHEjCAPITAL LETTER HWEjSMALL LETTER HWE",
   "jCAPITAL LETTER SHWEjSMALL LETTER SHWEjCAPITAL LETTER DOUBLE OjSMALL LETTER DOUBLE OjCAPITAL ",
   "LETTER CROSSED OjSMALL LETTER CROSSED OaMODIFIER LETTER CYRILLIC HARD SIGNzSOFT SIGNaCOMBININ",
   "G CYRILLIC LETTER EFbaIOTIFIED EaBAMUM LETTER AnKAnUnKUnEEnREEnTAEnOnNYInInLAnPAnRIIpEEnLEEEE",
   "nMEEEEnTAAnNDAAoJAEMnMnSUUnMUnSHIIoIoHEUXoEUXnKYEEoETnNUAEoUoJUAEnYOQnSHUnYUQoAnNSHAnKEUXnPEU",
   "XnNJEEoTEEnPUEnWUEnPEEnFEEnRUnLUnMInNInREUXoAEnKENnNGKWAENpGApAnSHOnPUAEnFUoOMnWAnNAnLInPInLO",
   "QnKOnMBENnRENnMENoAnTInKInMOoBAAnTETnKPAnTENnNTUUnSAMBAnFAAMAEnKOVUUpGHOMgCOMBINING MARK KOQN",
   "DONvTUKWENTISgNJAEMLIgFULL STOPgCOLONiMMAgSEMICOLONgQUESTION MARK@42752aMODIFIER LETTER CHINE",
   "SE TONE YIN PINGbeANG PINGbeIN SHANGbeANG SHANGbeIN QUbeANG QUbeIN RUbeANG RUqEXTRA-HIGH DOTT",
   "ED TONE BARqHIGH DOTTED TONE BARqMID DOTTED TONE BARqLOW DOTTED TONE BARqEXTRA-LOW DOTTED TON",
   "E BARwHIGH DOTTED LEFT-STEM TONE BARqHIGH DOTTED LEFT-STEM TONE BARqMID DOTTED LEFT-STEM TONE",
   " BARqLOW DOTTED LEFT-STEM TONE BARqEXTRA-LOW DOTTED LEFT-STEM TONE BARwHIGH LEFT-STEM TONE BA",
   "RqHIGH LEFT-STEM TONE BARqMID LEFT-STEM TONE BARqLOW LEFT-STEM TONE BARqEXTRA-LOW LEFT-STEM T",
   "ONE BARqDOT VERTICAL BARuSLASHuHORIZONTAL BARqLOWER RIGHT CORNER ANGLEqRAISED UP ARROWxDOWN A",
   "RROWxEXCLAMATION MARKxINVERTED EXCLAMATION MARKqLOW INVERTED EXCLAMATION MARKqSTRESS AND HIGH",
   " TONEbbLOW TONEaLATIN CAPITAL LETTER EGYPTOLOGICAL ALEFgSMALL LETTER EGYPTOLOGICAL ALEFgCAPIT",
   "AL LETTER EGYPTOLOGICAL AINgSMALL LETTER EGYPTOLOGICAL AINgCAPITAL LETTER HENGgSMALL LETTER H",
   "ENGgCAPITAL LETTER TZgSMALL LETTER TZgCAPITAL LETTER TRESILLOgSMALL LETTER TRESILLOgCAPITAL L",
   "ETTER CUATRILLOgSMALL LETTER CUATRILLOgCAPITAL LETTER CUATRILLO WITH COMMAgSMALL LETTER CUATR",
   "ILLO WITH COMMAgLETTER SMALL CAPITAL FbbSgCAPITAL LETTER AAgSMALL LETTER AAgCAPITAL LETTER AO",
   "gSMALL LETTER AOgCAPITAL LETTER AUgSMALL LETTER AUgCAPITAL LETTER AVgSMALL LETTER AVgCAPITAL ",
   "LETTER AV WITH HORIZONTAL BARgSMALL LETTER AV WITH HORIZONTAL BARgCAPITAL LETTER AYgSMALL LET",
   "TER AYgCAPITAL LETTER REVERSED C WITH DOTgSMALL LETTER REVERSED C WITH DOTgCAPITAL LETTER K W",
   "ITH STROKEgSMALL LETTER K WITH STROKEgCAPITAL LETTER K WITH DIAGONAL STROKEgSMALL LETTER K WI",
   "TH DIAGONAL STROKEgCAPITAL LETTER K WITH STROKE AND DIAGONAL STROKEgSMALL LETTER K WITH STROK",
   "E AND DIAGONAL STROKEgCAPITAL LETTER BROKEN LgSMALL LETTER BROKEN LgCAPITAL LETTER L WITH HIG",
   "H STROKEgSMALL LETTER L WITH HIGH STROKEgCAPITAL LETTER O WITH LONG STROKE OVERLAYgSMALL LETT",
   "ER O WITH LONG STROKE OVERLAYgCAPITAL LETTER O WITH LOOPgSMALL LETTER O WITH LOOPgCAPITAL LET",
   "TER OOgSMALL LETTER OOgCAPITAL LETTER P WITH STROKE THROUGH DESCENDERgSMALL LETTER P WITH STR",
   "OKE THROUGH DESCENDERgCAPITAL LETTER P WITH FLOURISHgSMALL LETTER P WITH FLOURISHgCAPITAL LET",
   "TER P WITH SQUIRREL TAILgSMALL LETTER P WITH SQUIRREL TAILgCAPITAL LETTER Q WITH STROKE THROU",
   "GH DESCENDERgSMALL LETTER Q WITH STROKE THROUGH DESCENDERgCAPITAL LETTER Q WITH DIAGONAL STRO",
   "KEgSMALL LETTER Q WITH DIAGONAL STROKEgCAPITAL LETTER R ROTUNDAgSMALL LETTER R ROTUNDAgCAPITA",
   "L LETTER RUM ROTUNDAgSMALL LETTER RUM ROTUNDAgCAPITAL LETTER V WITH DIAGONAL STROKEgSMALL LET",
   "TER V WITH DIAGONAL STROKEgCAPITAL LETTER VYgSMALL LETTER VYgCAPITAL LETTER VISIGOTHIC ZgSMAL",
   "L LETTER VISIGOTHIC ZgCAPITAL LETTER THORN WITH STROKEgSMALL LETTER THORN WITH STROKEgCAPITAL",
   " LETTER THORN WITH STROKE THROUGH DESCENDERgSMALL LETTER THORN WITH STROKE THROUGH DESCENDERg",
   "CAPITAL LETTER VENDgSMALL LETTER VENDgCAPITAL LETTER ETgSMALL LETTER ETgCAPITAL LETTER ISgSMA",
   "LL LETTER ISgCAPITAL LETTER CONgSMALL LETTER CONaMODIFIER LETTER USaLATIN SMALL LETTER DUMtLU",
   "MtMUMtNUMtRUMgLETTER SMALL CAPITAL RUMgSMALL LETTER TUMtUMgCAPITAL LETTER INSULAR DgSMALL LET",
   "TER INSULAR DgCAPITAL LETTER INSULAR FgSMALL LETTER INSULAR FgCAPITAL LETTER INSULAR GvTURNED",
   " INSULAR GgSMALL LETTER TURNED INSULAR GgCAPITAL LETTER TURNED LgSMALL LETTER TURNED LgCAPITA",
   "L LETTER INSULAR RgSMALL LETTER INSULAR RgCAPITAL LETTER INSULAR SgSMALL LETTER INSULAR SgCAP",
   "ITAL LETTER INSULAR TgSMALL LETTER INSULAR TaMODIFIER LETTER LOW CIRCUMFLEX ACCENTqCOLONqSHOR",
   "T EQUALS SIGNaLATIN CAPITAL LETTER SALTILLOgSMALL LETTER SALTILLOgCAPITAL LETTER TURNED HgSMA",
   "LL LETTER L WITH RETROFLEX HOOK AND BELTgLETTER SINOLOGICAL DOTgCAPITAL LETTER N WITH DESCEND",
   "ERgSMALL LETTER N WITH DESCENDERgCAPITAL LETTER C WITH BARgSMALL LETTER C WITH BARbaPALATAL H",
   "OOKtH WITH PALATAL HOOKgCAPITAL LETTER B WITH FLOURISHgSMALL LETTER B WITH FLOURISHgCAPITAL L",
   "ETTER F WITH STROKEgSMALL LETTER F WITH STROKEgCAPITAL LETTER VOLAPUK AEgSMALL LETTER VOLAPUK",
   " AEgCAPITAL LETTER VOLAPUK OEgSMALL LETTER VOLAPUK OEgCAPITAL LETTER VOLAPUK UEgSMALL LETTER ",
   "VOLAPUK UEgCAPITAL LETTER G WITH OBLIQUE STROKEgSMALL LETTER G WITH OBLIQUE STROKEgCAPITAL LE",
   "TTER K WITH OBLIQUE STROKEgSMALL LETTER K WITH OBLIQUE STROKEgCAPITAL LETTER N WITH OBLIQUE S",
   "TROKEgSMALL LETTER N WITH OBLIQUE STROKEgCAPITAL LETTER R WITH OBLIQUE STROKEgSMALL LETTER R ",
   "WITH OBLIQUE STROKEgCAPITAL LETTER S WITH OBLIQUE STROKEgSMALL LETTER S WITH OBLIQUE STROKEgC",
   "APITAL LETTER H WITH HOOKvREVERSED OPEN EvSCRIPT GvL WITH BELTvSMALL CAPITAL IgLETTER SMALL C",
   "APITAL QgCAPITAL LETTER TURNED KbcTvJ WITH CROSSED-TAILvCHIvBETAgSMALL LETTER BETAgCAPITAL LE",
   "TTER OMEGAgSMALL LETTER OMEGAgCAPITAL LETTER U WITH STROKEgSMALL LETTER U WITH STROKEgCAPITAL",
   " LETTER GLOTTAL AgSMALL LETTER GLOTTAL AgCAPITAL LETTER GLOTTAL IgSMALL LETTER GLOTTAL IgCAPI",
   "TAL LETTER GLOTTAL UgSMALL LETTER GLOTTAL UgCAPITAL LETTER OLD POLISH OgSMALL LETTER OLD POLI",
   "SH OgCAPITAL LETTER ANGLICANA WgSMALL LETTER ANGLICANA WgCAPITAL LETTER C WITH PALATAL HOOKvS",
   " WITH HOOKvZ WITH PALATAL HOOKvD WITH SHORT STROKE OVERLAYgSMALL LETTER D WITH SHORT STROKE O",
   "VERLAYgCAPITAL LETTER S WITH SHORT STROKE OVERLAYgSMALL LETTER S WITH SHORT STROKE OVERLAY@42",
   "960gCAPITAL LETTER CLOSED INSULAR GgSMALL LETTER CLOSED INSULAR G@42963tDOUBLE THORN@42965baW",
   "YNNgCAPITAL LETTER MIDDLE SCOTS SgSMALL LETTER MIDDLE SCOTS SgCAPITAL LETTER SIGMOID SgSMALL ",
   "LETTER SIGMOID S@42994aMODIFIER LETTER CAPITAL CyFyQaLATIN CAPITAL LETTER REVERSED HALF HgSMA",
   "LL LETTER REVERSED HALF HgEPIGRAPHIC LETTER SIDEWAYS IaMODIFIER LETTER CAPITAL H WITH STROKEq",
   "SMALL LIGATURE OEaLATIN LETTER SMALL CAPITAL TURNED MgEPIGRAPHIC LETTER REVERSED FbhPyINVERTE",
   "D Mz LONGAyARCHAIC MaSYLOTI NAGRI LETTER AuInSIGN DVISVARAnLETTER UuEuOnSIGN HASANTAnLETTER K",
   "OvHOuGOvHOnSIGN ANUSVARAnLETTER COvHOuJOvHOuTTOwHOuDDOwHOuTOvHOuDOvHOuNOuPOvHOuBOvHOuMOuROuLO",
   "uRROuSOuHOnVOWEL SIGN AyIyUyEyOOnPOETRY MARK-1z2z3z4nSIGN ALTERNATE HASANTA@43056aNORTH INDIC",
   " FRACTION ONE QUARTERzHALFvTHREE QUARTERSvONE SIXTEENTHzEIGHTHvTHREE SIXTEENTHSmQUARTER MARKm",
   "PLACEHOLDER MARKmRUPEE MARKmQUANTITY MARK@43072aPHAGS-PA LETTER KArHAqGAqNGAqCArHAqJAqNYAqTAr",
   "HAqDAqNAqPArHAqBAqMAqTSAsHAqDZAqWAqZHArAqSMALL AqYAqRAqLAqSHArAqHAqAqIqUqEqOqQAqXAqFAqGGAqEEj",
   "SUBJOINED LETTER WAbaYAjLETTER TTAsHAqDDAqNNAqALTERNATE YAqVOICELESS SHAvD HAqASPIRATED FAjSU",
   "BJOINED LETTER RAlPERFIXED LETTER RAjLETTER CANDRABINDUjSINGLE HEAD MARKjDOUBLE HEAD MARKjMAR",
   "K SHADoDOUBLE SHAD@43136aSAURASHTRA SIGN ANUSVARAqVISARGAlLETTER AtAsItIsUtUsVOCALIC RbbRbaLb",
   "bLsEtEsAIsOtOsAUsKAtHAsGAtHAsNGAsCAtHAsJAtHAsNYAsTTAuHAsDDAuHAsNNAsTAtHAsDAtHAsNAsPAtHAsBAtHA",
   "sMAsYAsRAsLAsVAsSHAtSAtAsHAsLLAlCONSONANT SIGN HAARUlVOWEL SIGN AAwIxIwUxUwVOCALIC RbfRbeLbfL",
   "wExEwAIwOxOwAUlSIGN VIRAMAqCANDRABINDU@43214lDANDAmOUBLE DANDAmIGIT ZEROrONErTWOsHREErFOURsIV",
   "ErSIXsEVENrEIGHTrNINE@43232aCOMBINING DEVANAGARI DIGIT ZERObbONEbbTWObcHREEbbFOURbcIVEbbSIXbc",
   "EVENbbEIGHTbbNINEvLETTER AbcUbcKAbcNAbcPAbcRAbcVIvSIGN AVAGRAHAaDEVANAGARI SIGN SPACING CANDR",
   "ABINDUqCANDRABINDU VIRAMAqDOUBLE CANDRABINDU VIRAMAqCANDRABINDU TWObdHREEbcAVAGRAHAqPUSHPIKAl",
   "GAP FILLERlCARETlHEADSTROKElSIGN SIDDHAMlJAIN OMlLETTER AYlVOWEL SIGN AYaKAYAH LI DIGIT ZEROp",
   "ONEpTWOqHREEpFOURqIVEpSIXqEVENpEIGHTpNINEjLETTER KArHAqGAqNGAqSArHAqZAqNYAqTAqHTAqNAqPArHAqMA",
   "qDAqBAqRAqYAqLAqWAqTHAqHAqVAqCAqAqOEqIqOOjVOWEL UEpEpUpEEpOjTONE PLOPHUoCALYAt PLOPHUjSIGN CW",
   "IoSHYAaREJANG LETTER KAoGAoNGAoTAoDAoNAoPAoBAoMAoCAoJAoNYAoSAoRAoLAoYAoWAoHAoMBAoNGGApDApYJAo",
   "AhVOWEL SIGN IsUsEsAIsOsAUsEUtAhCONSONANT SIGN NGwNwRwHhVIRAMA@43359hSECTION MARKaHANGUL CHOS",
   "EONG TIKEUT-MIEUMxPIEUPxSIOSxCIEUCqRIEUL-KIYEOKwSSANGKIYEOKwTIKEUTwSSANGTIKEUTwMIEUMwPIEUPwSS",
   "ANGPIEUPwKAPYEOUNPIEUPwSIOSwCIEUCwKHIEUKHqMIEUM-KIYEOKwTIKEUTwSIOSqPIEUP-SIOS-THIEUTHwKHIEUKH",
   "wHIEUHqSSANGSIOS-PIEUPqIEUNG-RIEULwHIEUHqSSANGCIEUC-HIEUHvTHIEUTHqPHIEUPH-HIEUHqHIEUH-SIOSqSS",
   "ANGYEORINHIEUH@43392aJAVANESE SIGN PANYANGGAoCECAKoLAYARoWIGNYANjLETTER AqI KAWIqIrIqUqPA CER",
   "EKqNGA LELETz RASWADIqEqAIqOqKAs SASAKtMURDAqGAs MURDAqNGAqCAs MURDAqJAqNYA MURDAqJA MAHAPRAN",
   "AqNYAqTTAt MAHAPRANAqDDAt MAHAPRANAqNA MURDAqTAs MURDAqDAs MAHAPRANAqNAqPAs MURDAqBAs MURDAqM",
   "AqYAqRAs AGUNGqLAqWAqSA MURDAuAHAPRANArAqHAjSIGN CECAK TELUjVOWEL SIGN TARUNGvOLONGuWULUy MEL",
   "IKuSUKUy MENDUTuTALINGuDIRGA MUREuPEPETjCONSONANT SIGN KERETyPENGKALyCAKRAjPANGKONjLEFT REREN",
   "GGANjRIGHT RERENGGANjPADA ANDAPoMADYAoLUHURoWINDUoPANGKAToLINGSApUNGSIoADEGs ADEGoPISELEHjTUR",
   "NED PADA PISELEH@43471jPANGRANGKEPjDIGIT ZEROpONEpTWOqHREEpFOURqIVEpSIXqEVENpEIGHTpNINE@43486",
   "jPADA TIRTA TUMETESoISEN-ISENaMYANMAR LETTER SHAN GHAuCHAuJHAuNNAuBHAiSIGN SHAN SAWiMODIFIER ",
   "LETTER SHAN REDUPLICATIONiLETTER TAI LAING NYAzFAzGAbaHAzJAbaHAzDDAbbHAzNNAiTAI LAING DIGIT Z",
   "EROyONEyTWOzHREEyFOURzIVEySIXzEVENyEIGHTyNINEiLETTER TAI LAING LLAzDAbaHAzBAbaHA@43520aCHAM L",
   "ETTER AmImUmEmAImOmKAnHAmGAnHAmNGUEoAmCHAoHAmJAnHAmNHUEoAoJAmTAnHAmDAnHAmNUEnAmDDAmPAnPAnHAmB",
   "AnHAmMUEnAmBBAmYAmRAmLAmVAmSSAnAmHAfVOWEL SIGN AAqIrIqEIqUqOEqOqAIrUqUEfCONSONANT SIGN YAuRAu",
   "LAuWA@43584fLETTER FINAL KsGsNGfCONSONANT SIGN FINAL NGfLETTER FINAL CHsTsNsPsYsRsLsSSfCONSON",
   "ANT SIGN FINAL MbaH@43600fDIGIT ZEROlONElTWOmHREElFOURmIVElSIXmEVENlEIGHTlNINE@43612fPUNCTUAT",
   "ION SPIRALrDANDAsOUBLE DANDArTRIPLE DANDAaMYANMAR LETTER KHAMTI GAwCAxHAwJAxHAwNYAwTTAyHAwDDA",
   "yHAxHAwNAwSAwHAxHAwFAiMODIFIER LETTER KHAMTI REDUPLICATIONiLETTER KHAMTI XAwZAwRAjOGOGRAM KHA",
   "MTI OAYyQNyHMiSYMBOL AITON EXCLAMATIONvONEvTWOiLETTER AITON RAiSIGN PAO KAREN TONEnTAI LAING ",
   "TONE-2bc5iLETTER SHWE PALAUNG CHAbcSHAaTAI VIET LETTER LOW KOqHIGH KOqLOW KHOqHIGH KHOqLOW KH",
   "HOqHIGH KHHOqLOW GOqHIGH GOqLOW NGOqHIGH NGOqLOW COqHIGH COqLOW CHOqHIGH CHOqLOW SOqHIGH SOqL",
   "OW NYOqHIGH NYOqLOW DOqHIGH DOqLOW TOqHIGH TOqLOW THOqHIGH THOqLOW NOqHIGH NOqLOW BOqHIGH BOq",
   "LOW POqHIGH POqLOW PHOqHIGH PHOqLOW FOqHIGH FOqLOW MOqHIGH MOqLOW YOqHIGH YOqLOW ROqHIGH ROqL",
   "OW LOqHIGH LOqLOW VOqHIGH VOqLOW HOqHIGH HOqLOW OqHIGH OjMAI KANGjVOWEL AApIpUEpUpEpOjMAI KHI",
   "TjVOWEL IApUEAqApAUEqYqNqMjTONE MAI EKsNUENGsTHOsSONG@43739jSYMBOL KONqNUENGqSAMqHO HOIqKOI K",
   "OIaMEETEI MAYEK LETTER EuOuCHAuNYAuTTAwHAuDDAwHAuNNAuSHAvSAnVOWEL SIGN IIyUUyAAIzUzAUnCHEIKHA",
   "NnAHANG KHUDAMoNJInSYLLABLE REPETITION MARKnWORD REPETITION MARKnVOWEL SIGN VISARGAoIRAMA@437",
   "77aETHIOPIC SYLLABLE TTHUvIvAAvEEvEvO@43785sDDHUvIvAAvEEvEvO@43793tZUuIuAAuEEuEuO@43808sCCHHA",
   "wUwIwAAwEEwEwO@43816sBBAuUuIuAAuEEuEuO@43824aLATIN SMALL LETTER BARRED ALPHAtA REVERSED-SCHWA",
   "tBLACKLETTER EuARRED EtE WITH FLOURISHtLENIS FtSCRIPT G WITH CROSSED-TAILtL WITH INVERTED LAZ",
   "Y SbaDOUBLE MIDDLE TILDEbaMIDDLE RINGtM WITH CROSSED-TAILtN WITH CROSSED-TAILtENG WITH CROSSE",
   "D-TAILtBLACKLETTER Obg WITH STROKEtOPEN O WITH STROKEtINVERTED OEtTURNED OE WITH STROKEbiHORI",
   "ZONTAL STROKEbb OPEN-Obi WITH STROKEtSTIRRUP RgLETTER SMALL CAPITAL R WITH RIGHT LEGgSMALL LE",
   "TTER R WITHOUT HANDLEtDOUBLE RtR WITH CROSSED-TAILtDOUBLE R WITH CROSSED-TAILtSCRIPT Rbb WITH",
   " RINGtBASELINE ESHtU WITH SHORT RIGHT LEGvBAR WITH SHORT RIGHT LEGuItTURNED UItU WITH LEFT HO",
   "OKtCHIw WITH LOW RIGHT RINGbgLEFT SERIFtX WITH LOW RIGHT RINGbcNG LEFT LEGbn AND LOW RIGHT RI",
   "NGboWITH SERIFtY WITH SHORT RIGHT LEGaMODIFIER BREVE WITH INVERTED BREVEjLETTER SMALL HENGwL ",
   "WITH INVERTED LAZY SbdMIDDLE TILDEwU WITH LEFT HOOKaLATIN SMALL LETTER SAKHA YATtIOTIFIED EtO",
   "PEN OEtUOtINVERTED ALPHAaGREEK LETTER SMALL CAPITAL OMEGAaLATIN SMALL LETTER DZ DIGRAPH WITH ",
   "RETROFLEX HOOKtTS DIGRAPH WITH RETROFLEX HOOKuURNED R WITH MIDDLE TILDEaMODIFIER LETTER SMALL",
   " TURNED WqLEFT TACKqRIGHT TACK@43888aCHEROKEE SMALL LETTER AwEwIwOwUwVwGAwKAwGExIxOxUxVwHAxEx",
   "IxOxUxVwLAxExIxOxUxVwMAxExIxOxUwNAwHNAwNAHxExIxOxUxVwQUAyEyIyOyUyVwSAwSxExIxOxUxVwDAwTAwDEwTE",
   "wDIwTIwDOxUxVxLAwTLAyEyIyOyUyVxSAyEyIyOyUyVwWAxExIxOxUxVwYAaMEETEI MAYEK LETTER KOKuSAMuLAIuM",
   "ITuPAuNAuCHILuTILuKHOUuNGOUuTHOUuWAIuYANGuHUKuUNuIuPHAMuATIYAuGOKuJHAMuRAIuBAuJILuDILuGHOUuDH",
   "OUuBHAMuKOK LONSUMuLAI LONSUMuMIT LONSUMuPA LONSUMuNA LONSUMuTIL LONSUMuNGOU LONSUMuI LONSUMn",
   "VOWEL SIGN ONAPyINAPyANAPyYENAPySOUNAPyUNAPyCHEINAPyNUNGnCHEIKHEInLUM IYEKnAPUN IYEK@44016nDI",
   "GIT ZEROtONEtTWOuHREEtFOURuIVEtSIXuEVENtEIGHTtNINE@55216aHANGUL JUNGSEONG O-YEOtO-IrYO-AvEuEO",
   "rU-YEOtI-IrYU-AEuOrEU-AuEOuEuOrI-YA-OvEuEOuEtO-ItYOuUtIrARAEA-AxE@55243iONGSEONG NIEUN-RIEULx",
   "CHIEUCHrSSANGTIKEUTbc-PIEUPrTIKEUT-PIEUPySIOSbc-KIYEOKyCIEUCzHIEUCHyTHIEUTHrRIEUL-SSANGKIYEOK",
   "xKIYEOK-HIEUHrSSANGRIEUL-KHIEUKHrRIEUL-MIEUM-HIEUHxPIEUP-TIKEUTbdPHIEUPHxYESIEUNGzORINHIEUH-H",
   "IEUHrKAPYEOUNRIEULrMIEUM-NIEUNxSSANGNIEUNrSSANGMIEUMrMIEUM-PIEUP-SIOSxCIEUCrPIEUP-TIKEUTxRIEU",
   "L-PHIEUPHxMIEUMrSSANGPIEUPrPIEUP-SIOS-TIKEUTxCIEUCyHIEUCHrSIOS-MIEUMwKAPYEOUNPIEUPsSANGSIOS-K",
   "IYEOKbbTIKEUTsIOS-PANSIOSwCIEUCxHIEUCHwTHIEUTHwHIEUHrPANSIOS-PIEUPzKAPYEOUNPIEUPrYESIEUNG-MIE",
   "UMbaHIEUHrCIEUC-PIEUPxSSANGPIEUPrSSANGCIEUCrPHIEUPH-SIOSzTHIEUTH@64256aLATIN SMALL LIGATURE F",
   "FwIwLwFIxLvLONG S TvST@64275aARMENIAN SMALL LIGATURE MEN NOWbcECHbcINIyVEW NOWyMEN XEH@64285a",
   "HEBREW LETTER YOD WITH HIRIQhPOINT JUDEO-SPANISH VARIKAhLIGATURE YIDDISH YOD YOD PATAHiETTER ",
   "ALTERNATIVE AYINoWIDE ALEFtDALETtHEtKAFtLAMEDtFINAL MEMtRESHtTAVoALTERNATIVE PLUS SIGNoSHIN W",
   "ITH SHIN DOTzIN DOTyDAGESH AND SHIN DOTbkIN DOToALEF WITH PATAHyQAMATSyMAPIQoBET WITH DAGESHo",
   "GIMEL WITH DAGESHoDALET WITH DAGESHoHE WITH MAPIQoVAV WITH DAGESHoZAYIN WITH DAGESH@64312oTET",
   " WITH DAGESHoYOD WITH DAGESHoFINAL KAF WITH DAGESHoKAF WITH DAGESHoLAMED WITH DAGESH@64318oME",
   "M WITH DAGESH@64320oNUN WITH DAGESHoSAMEKH WITH DAGESH@64323oFINAL PE WITH DAGESHoPE WITH DAG",
   "ESH@64326oTSADI WITH DAGESHoQOF WITH DAGESHoRESH WITH DAGESHoSHIN WITH DAGESHoTAV WITH DAGESH",
   "oVAV WITH HOLAMoBET WITH RAFEoKAF WITH RAFEoPE WITH RAFEiIGATURE ALEF LAMEDaARABIC LETTER ALE",
   "F WASLA ISOLATED FORMzFINAL FORMoBEEH ISOLATED FORMtFINAL FORMtINITIAL FORMtMEDIAL FORMoPEH I",
   "SOLATED FORMsFINAL FORMsINITIAL FORMsMEDIAL FORMoBEHEH ISOLATED FORMuFINAL FORMuINITIAL FORMu",
   "MEDIAL FORMoTTEHEH ISOLATED FORMvFINAL FORMvINITIAL FORMvMEDIAL FORMpEHEH ISOLATED FORMuFINAL",
   " FORMuINITIAL FORMuMEDIAL FORMpTEH ISOLATED FORMtFINAL FORMtINITIAL FORMtMEDIAL FORMoVEH ISOL",
   "ATED FORMsFINAL FORMsINITIAL FORMsMEDIAL FORMoPEHEH ISOLATED FORMuFINAL FORMuINITIAL FORMuMED",
   "IAL FORMoDYEH ISOLATED FORMtFINAL FORMtINITIAL FORMtMEDIAL FORMoNYEH ISOLATED FORMtFINAL FORM",
   "tINITIAL FORMtMEDIAL FORMoTCHEH ISOLATED FORMuFINAL FORMuINITIAL FORMuMEDIAL FORMtEH ISOLATED",
   " FORMwFINAL FORMwINITIAL FORMwMEDIAL FORMoDDAHAL ISOLATED FORMvFINAL FORMpAHAL ISOLATED FORMu",
   "FINAL FORMpUL ISOLATED FORMsFINAL FORMpDAL ISOLATED FORMtFINAL FORMoJEH ISOLATED FORMsFINAL F",
   "ORMoRREH ISOLATED FORMtFINAL FORMoKEHEH ISOLATED FORMuFINAL FORMuINITIAL FORMuMEDIAL FORMoGAF",
   " ISOLATED FORMsFINAL FORMsINITIAL FORMsMEDIAL FORMpUEH ISOLATED FORMtFINAL FORMtINITIAL FORMt",
   "MEDIAL FORMoNGOEH ISOLATED FORMuFINAL FORMuINITIAL FORMuMEDIAL FORMpOON GHUNNA ISOLATED FORMb",
   "aFINAL FORMoRNOON ISOLATED FORMuFINAL FORMuINITIAL FORMuMEDIAL FORMoHEH WITH YEH ABOVE ISOLAT",
   "ED FORMbhFINAL FORMsGOAL ISOLATED FORMxFINAL FORMxINITIAL FORMxMEDIAL FORMsDOACHASHMEE ISOLAT",
   "ED FORMbeFINAL FORMbeINITIAL FORMbeMEDIAL FORMoYEH BARREE ISOLATED FORMzFINAL FORMzWITH HAMZA",
   " ABOVE ISOLATED FORMbqFINAL FORMhSYMBOL DOT ABOVEsBELOWoTWO DOTS ABOVExBELOWpHREE DOTS ABOVEz",
   "BELOWzPOINTING DOWNWARDS ABOVEbsBELOWoFOUR DOTS ABOVEyBELOWoDOUBLE VERTICAL BAR BELOWoTWO DOT",
   "S VERTICALLY ABOVEbiBELOWoRINGoSMALL TAH ABOVEyBELOWoWASLA ABOVE@64467hLETTER NG ISOLATED FOR",
   "MrFINAL FORMrINITIAL FORMrMEDIAL FORMoU ISOLATED FORMqFINAL FORMoOE ISOLATED FORMrFINAL FORMo",
   "YU ISOLATED FORMrFINAL FORMoU WITH HAMZA ABOVE ISOLATED FORMoVE ISOLATED FORMrFINAL FORMoKIRG",
   "HIZ OE ISOLATED FORMzFINAL FORMwYU ISOLATED FORMzFINAL FORMoE ISOLATED FORMqFINAL FORMqINITIA",
   "L FORMqMEDIAL FORMoUIGHUR KAZAKH KIRGHIZ ALEF MAKSURA INITIAL FORMbxMEDIAL FORMiIGATURE YEH W",
   "ITH HAMZA ABOVE WITH ALEF ISOLATED FORMbvFINAL FORMbrE ISOLATED FORMbtFINAL FORMbqWAW ISOLATE",
   "D FORMbuFINAL FORMbqU ISOLATED FORMbsFINAL FORMbqOE ISOLATED FORMbtFINAL FORMbqYU ISOLATED FO",
   "RMbtFINAL FORMbqE ISOLATED FORMbsFINAL FORMbsINITIAL FORMqUIGHUR KIRGHIZ YEH WITH HAMZA ABOVE",
   " WITH ALEF MAKSURA ISOLATED FORMcsFINAL FORMcsINITIAL FORMiETTER FARSI YEH ISOLATED FORMyFINA",
   "L FORMyINITIAL FORMyMEDIAL FORMiIGATURE YEH WITH HAMZA ABOVE WITH JEEM ISOLATED FORMbqHAH ISO",
   "LATED FORMbqMEEM ISOLATED FORMbqALEF MAKSURA ISOLATED FORMbqYEH ISOLATED FORMqBEH WITH JEEM I",
   "SOLATED FORMzHAH ISOLATED FORMzKHAH ISOLATED FORMzMEEM ISOLATED FORMzALEF MAKSURA ISOLATED FO",
   "RMzYEH ISOLATED FORMqTEH WITH JEEM ISOLATED FORMzHAH ISOLATED FORMzKHAH ISOLATED FORMzMEEM IS",
   "OLATED FORMzALEF MAKSURA ISOLATED FORMzYEH ISOLATED FORMrHEH WITH JEEM ISOLATED FORMbaMEEM IS",
   "OLATED FORMbaALEF MAKSURA ISOLATED FORMbaYEH ISOLATED FORMqJEEM WITH HAH ISOLATED FORMbaMEEM ",
   "ISOLATED FORMqHAH WITH JEEM ISOLATED FORMzMEEM ISOLATED FORMqKHAH WITH JEEM ISOLATED FORMbaHA",
   "H ISOLATED FORMbaMEEM ISOLATED FORMqSEEN WITH JEEM ISOLATED FORMbaHAH ISOLATED FORMbaKHAH ISO",
   "LATED FORMbaMEEM ISOLATED FORMrAD WITH HAH ISOLATED FORMzMEEM ISOLATED FORMqDAD WITH JEEM ISO",
   "LATED FORMzHAH ISOLATED FORMzKHAH ISOLATED FORMzMEEM ISOLATED FORMqTAH WITH HAH ISOLATED FORM",
   "zMEEM ISOLATED FORMqZAH WITH MEEM ISOLATED FORMqAIN WITH JEEM ISOLATED FORMzMEEM ISOLATED FOR",
   "MqGHAIN WITH JEEM ISOLATED FORMbbMEEM ISOLATED FORMqFEH WITH JEEM ISOLATED FORMzHAH ISOLATED ",
   "FORMzKHAH ISOLATED FORMzMEEM ISOLATED FORMzALEF MAKSURA ISOLATED FORMzYEH ISOLATED FORMqQAF W",
   "ITH HAH ISOLATED FORMzMEEM ISOLATED FORMzALEF MAKSURA ISOLATED FORMzYEH ISOLATED FORMqKAF WIT",
   "H ALEF ISOLATED FORMzJEEM ISOLATED FORMzHAH ISOLATED FORMzKHAH ISOLATED FORMzLAM ISOLATED FOR",
   "MzMEEM ISOLATED FORMzALEF MAKSURA ISOLATED FORMzYEH ISOLATED FORMqLAM WITH JEEM ISOLATED FORM",
   "zHAH ISOLATED FORMzKHAH ISOLATED FORMzMEEM ISOLATED FORMzALEF MAKSURA ISOLATED FORMzYEH ISOLA",
   "TED FORMqMEEM WITH JEEM ISOLATED FORMbaHAH ISOLATED FORMbaKHAH ISOLATED FORMbaMEEM ISOLATED F",
   "ORMbaALEF MAKSURA ISOLATED FORMbaYEH ISOLATED FORMqNOON WITH JEEM ISOLATED FORMbaHAH ISOLATED",
   " FORMbaKHAH ISOLATED FORMbaMEEM ISOLATED FORMbaALEF MAKSURA ISOLATED FORMbaYEH ISOLATED FORMq",
   "HEH WITH JEEM ISOLATED FORMzMEEM ISOLATED FORMzALEF MAKSURA ISOLATED FORMzYEH ISOLATED FORMqY",
   "EH WITH JEEM ISOLATED FORMzHAH ISOLATED FORMzKHAH ISOLATED FORMzMEEM ISOLATED FORMzALEF MAKSU",
   "RA ISOLATED FORMzYEH ISOLATED FORMqTHAL WITH SUPERSCRIPT ALEF ISOLATED FORMqREH WITH SUPERSCR",
   "IPT ALEF ISOLATED FORMqALEF MAKSURA WITH SUPERSCRIPT ALEF ISOLATED FORMqSHADDA WITH DAMMATAN ",
   "ISOLATED FORMbcKASRATAN ISOLATED FORMbcFATHA ISOLATED FORMbcDAMMA ISOLATED FORMbcKASRA ISOLAT",
   "ED FORMbcSUPERSCRIPT ALEF ISOLATED FORMqYEH WITH HAMZA ABOVE WITH REH FINAL FORMbqZAIN FINAL ",
   "FORMbqMEEM FINAL FORMbqNOON FINAL FORMbqALEF MAKSURA FINAL FORMbqYEH FINAL FORMqBEH WITH REH ",
   "FINAL FORMzZAIN FINAL FORMzMEEM FINAL FORMzNOON FINAL FORMzALEF MAKSURA FINAL FORMzYEH FINAL ",
   "FORMqTEH WITH REH FINAL FORMzZAIN FINAL FORMzMEEM FINAL FORMzNOON FINAL FORMzALEF MAKSURA FIN",
   "AL FORMzYEH FINAL FORMrHEH WITH REH FINAL FORMbaZAIN FINAL FORMbaMEEM FINAL FORMbaNOON FINAL ",
   "FORMbaALEF MAKSURA FINAL FORMbaYEH FINAL FORMqFEH WITH ALEF MAKSURA FINAL FORMzYEH FINAL FORM",
   "qQAF WITH ALEF MAKSURA FINAL FORMzYEH FINAL FORMqKAF WITH ALEF FINAL FORMzLAM FINAL FORMzMEEM",
   " FINAL FORMzALEF MAKSURA FINAL FORMzYEH FINAL FORMqLAM WITH MEEM FINAL FORMzALEF MAKSURA FINA",
   "L FORMzYEH FINAL FORMqMEEM WITH ALEF FINAL FORMbaMEEM FINAL FORMqNOON WITH REH FINAL FORMbaZA",
   "IN FINAL FORMbaMEEM FINAL FORMbaNOON FINAL FORMbaALEF MAKSURA FINAL FORMbaYEH FINAL FORMqALEF",
   " MAKSURA WITH SUPERSCRIPT ALEF FINAL FORMqYEH WITH REH FINAL FORMzZAIN FINAL FORMzMEEM FINAL ",
   "FORMzNOON FINAL FORMzALEF MAKSURA FINAL FORMzYEH FINAL FORMzHAMZA ABOVE WITH JEEM INITIAL FOR",
   "MbqHAH INITIAL FORMbqKHAH INITIAL FORMbqMEEM INITIAL FORMbqHEH INITIAL FORMqBEH WITH JEEM INI",
   "TIAL FORMzHAH INITIAL FORMzKHAH INITIAL FORMzMEEM INITIAL FORMzHEH INITIAL FORMqTEH WITH JEEM",
   " INITIAL FORMzHAH INITIAL FORMzKHAH INITIAL FORMzMEEM INITIAL FORMzHEH INITIAL FORMrHEH WITH ",
   "MEEM INITIAL FORMqJEEM WITH HAH INITIAL FORMbaMEEM INITIAL FORMqHAH WITH JEEM INITIAL FORMzME",
   "EM INITIAL FORMqKHAH WITH JEEM INITIAL FORMbaMEEM INITIAL FORMqSEEN WITH JEEM INITIAL FORMbaH",
   "AH INITIAL FORMbaKHAH INITIAL FORMbaMEEM INITIAL FORMrAD WITH HAH INITIAL FORMzKHAH INITIAL F",
   "ORMzMEEM INITIAL FORMqDAD WITH JEEM INITIAL FORMzHAH INITIAL FORMzKHAH INITIAL FORMzMEEM INIT",
   "IAL FORMqTAH WITH HAH INITIAL FORMqZAH WITH MEEM INITIAL FORMqAIN WITH JEEM INITIAL FORMzMEEM",
   " INITIAL FORMqGHAIN WITH JEEM INITIAL FORMbbMEEM INITIAL FORMqFEH WITH JEEM INITIAL FORMzHAH ",
   "INITIAL FORMzKHAH INITIAL FORMzMEEM INITIAL FORMqQAF WITH HAH INITIAL FORMzMEEM INITIAL FORMq",
   "KAF WITH JEEM INITIAL FORMzHAH INITIAL FORMzKHAH INITIAL FORMzLAM INITIAL FORMzMEEM INITIAL F",
   "ORMqLAM WITH JEEM INITIAL FORMzHAH INITIAL FORMzKHAH INITIAL FORMzMEEM INITIAL FORMzHEH INITI",
   "AL FORMqMEEM WITH JEEM INITIAL FORMbaHAH INITIAL FORMbaKHAH INITIAL FORMbaMEEM INITIAL FORMqN",
   "OON WITH JEEM INITIAL FORMbaHAH INITIAL FORMbaKHAH INITIAL FORMbaMEEM INITIAL FORMbaHEH INITI",
   "AL FORMqHEH WITH JEEM INITIAL FORMzMEEM INITIAL FORMzSUPERSCRIPT ALEF INITIAL FORMqYEH WITH J",
   "EEM INITIAL FORMzHAH INITIAL FORMzKHAH INITIAL FORMzMEEM INITIAL FORMzHEH INITIAL FORMbaAMZA ",
   "ABOVE WITH MEEM MEDIAL FORMbqHEH MEDIAL FORMqBEH WITH MEEM MEDIAL FORMzHEH MEDIAL FORMqTEH WI",
   "TH MEEM MEDIAL FORMzHEH MEDIAL FORMrHEH WITH MEEM MEDIAL FORMbaHEH MEDIAL FORMqSEEN WITH MEEM",
   " MEDIAL FORMbaHEH MEDIAL FORMrHEEN WITH MEEM MEDIAL FORMbbHEH MEDIAL FORMqKAF WITH LAM MEDIAL",
   " FORMzMEEM MEDIAL FORMqLAM WITH MEEM MEDIAL FORMqNOON WITH MEEM MEDIAL FORMbaHEH MEDIAL FORMq",
   "YEH WITH MEEM MEDIAL FORMzHEH MEDIAL FORMqSHADDA WITH FATHA MEDIAL FORMbcDAMMA MEDIAL FORMbcK",
   "ASRA MEDIAL FORMqTAH WITH ALEF MAKSURA ISOLATED FORMzYEH ISOLATED FORMqAIN WITH ALEF MAKSURA ",
   "ISOLATED FORMzYEH ISOLATED FORMqGHAIN WITH ALEF MAKSURA ISOLATED FORMbbYEH ISOLATED FORMqSEEN",
   " WITH ALEF MAKSURA ISOLATED FORMbaYEH ISOLATED FORMrHEEN WITH ALEF MAKSURA ISOLATED FORMbbYEH",
   " ISOLATED FORMqHAH WITH ALEF MAKSURA ISOLATED FORMzYEH ISOLATED FORMqJEEM WITH ALEF MAKSURA I",
   "SOLATED FORMbaYEH ISOLATED FORMqKHAH WITH ALEF MAKSURA ISOLATED FORMbaYEH ISOLATED FORMqSAD W",
   "ITH ALEF MAKSURA ISOLATED FORMzYEH ISOLATED FORMqDAD WITH ALEF MAKSURA ISOLATED FORMzYEH ISOL",
   "ATED FORMqSHEEN WITH JEEM ISOLATED FORMbbHAH ISOLATED FORMbbKHAH ISOLATED FORMbbMEEM ISOLATED",
   " FORMbbREH ISOLATED FORMrEEN WITH REH ISOLATED FORMrAD WITH REH ISOLATED FORMqDAD WITH REH IS",
   "OLATED FORMqTAH WITH ALEF MAKSURA FINAL FORMzYEH FINAL FORMqAIN WITH ALEF MAKSURA FINAL FORMz",
   "YEH FINAL FORMqGHAIN WITH ALEF MAKSURA FINAL FORMbbYEH FINAL FORMqSEEN WITH ALEF MAKSURA FINA",
   "L FORMbaYEH FINAL FORMrHEEN WITH ALEF MAKSURA FINAL FORMbbYEH FINAL FORMqHAH WITH ALEF MAKSUR",
   "A FINAL FORMzYEH FINAL FORMqJEEM WITH ALEF MAKSURA FINAL FORMbaYEH FINAL FORMqKHAH WITH ALEF ",
   "MAKSURA FINAL FORMbaYEH FINAL FORMqSAD WITH ALEF MAKSURA FINAL FORMzYEH FINAL FORMqDAD WITH A",
   "LEF MAKSURA FINAL FORMzYEH FINAL FORMqSHEEN WITH JEEM FINAL FORMbbHAH FINAL FORMbbKHAH FINAL ",
   "FORMbbMEEM FINAL FORMbbREH FINAL FORMrEEN WITH REH FINAL FORMrAD WITH REH FINAL FORMqDAD WITH",
   " REH FINAL FORMqSHEEN WITH JEEM INITIAL FORMbbHAH INITIAL FORMbbKHAH INITIAL FORMbbMEEM INITI",
   "AL FORMrEEN WITH HEH INITIAL FORMrHEEN WITH HEH INITIAL FORMqTAH WITH MEEM INITIAL FORMqSEEN ",
   "WITH JEEM MEDIAL FORMbaHAH MEDIAL FORMbaKHAH MEDIAL FORMrHEEN WITH JEEM MEDIAL FORMbbHAH MEDI",
   "AL FORMbbKHAH MEDIAL FORMqTAH WITH MEEM MEDIAL FORMqZAH WITH MEEM MEDIAL FORMqALEF WITH FATHA",
   "TAN FINAL FORMbjISOLATED FORMaORNATE LEFT PARENTHESIShRIGHT PARENTHESISaARABIC LIGATURE RAHIM",
   "AHU ALLAAHsDI ALLAAHU ANHbgAAbgUMbiAAbhNNAqSALLALLAAHU ALAYHI WA-AALIHqALAYHI AS-SALAAMwM AS-",
   "SALAAMxAA AS-SALAAMw AS-SALAATU WAS-SALAAMqQUDDISA SIRRAHqSALLALLAHU ALAYHI WAAALIHEE WA-SALL",
   "AMqALAYHAA AS-SALAAMqTABAARAKA WA-TAAALAAqRAHIMAHUM ALLAAHqTEH WITH JEEM WITH MEEM INITIAL FO",
   "RMzHAH WITH JEEM FINAL FORMbnINITIAL FORMbiMEEM INITIAL FORMzKHAH WITH MEEM INITIAL FORMzMEEM",
   " WITH JEEM INITIAL FORMbjHAH INITIAL FORMbjKHAH INITIAL FORMqJEEM WITH MEEM WITH HAH FINAL FO",
   "RMboINITIAL FORMqHAH WITH MEEM WITH YEH FINAL FORMbjALEF MAKSURA FINAL FORMqSEEN WITH HAH WIT",
   "H JEEM INITIAL FORMbaJEEM WITH HAH INITIAL FORMbkALEF MAKSURA FINAL FORMbaMEEM WITH HAH FINAL",
   " FORMboINITIAL FORMbkJEEM INITIAL FORMbkMEEM FINAL FORMbpINITIAL FORMrAD WITH HAH WITH HAH FI",
   "NAL FORMbmINITIAL FORMzMEEM WITH MEEM FINAL FORMrHEEN WITH HAH WITH MEEM FINAL FORMbpINITIAL ",
   "FORMbbJEEM WITH YEH FINAL FORMbbMEEM WITH KHAH FINAL FORMbqINITIAL FORMblMEEM FINAL FORMbqINI",
   "TIAL FORMqDAD WITH HAH WITH ALEF MAKSURA FINAL FORMzKHAH WITH MEEM FINAL FORMboINITIAL FORMqT",
   "AH WITH MEEM WITH HAH FINAL FORMbnINITIAL FORMbjMEEM INITIAL FORMbjYEH FINAL FORMqAIN WITH JE",
   "EM WITH MEEM FINAL FORMzMEEM WITH MEEM FINAL FORMboINITIAL FORMbjALEF MAKSURA FINAL FORMqGHAI",
   "N WITH MEEM WITH MEEM FINAL FORMblYEH FINAL FORMblALEF MAKSURA FINAL FORMqFEH WITH KHAH WITH ",
   "MEEM FINAL FORMboINITIAL FORMqQAF WITH MEEM WITH HAH FINAL FORMbjMEEM FINAL FORMqLAM WITH HAH",
   " WITH MEEM FINAL FORMbiYEH FINAL FORMbiALEF MAKSURA FINAL FORMzJEEM WITH JEEM INITIAL FORMboF",
   "INAL FORMzKHAH WITH MEEM FINAL FORMboINITIAL FORMzMEEM WITH HAH FINAL FORMbnINITIAL FORMqMEEM",
   " WITH HAH WITH JEEM INITIAL FORMbjMEEM INITIAL FORMbjYEH FINAL FORMbaJEEM WITH HAH INITIAL FO",
   "RMbkMEEM INITIAL FORMbaKHAH WITH JEEM INITIAL FORMbkMEEM INITIAL FORM@64914baJEEM WITH KHAH I",
   "NITIAL FORMqHEH WITH MEEM WITH JEEM INITIAL FORMbjMEEM INITIAL FORMqNOON WITH HAH WITH MEEM I",
   "NITIAL FORMbjALEF MAKSURA FINAL FORMbaJEEM WITH MEEM FINAL FORMbpINITIAL FORMbkALEF MAKSURA F",
   "INAL FORMbaMEEM WITH YEH FINAL FORMbkALEF MAKSURA FINAL FORMqYEH WITH MEEM WITH MEEM FINAL FO",
   "RMboINITIAL FORMqBEH WITH KHAH WITH YEH FINAL FORMqTEH WITH JEEM WITH YEH FINAL FORMbjALEF MA",
   "KSURA FINAL FORMzKHAH WITH YEH FINAL FORMbjALEF MAKSURA FINAL FORMzMEEM WITH YEH FINAL FORMbj",
   "ALEF MAKSURA FINAL FORMqJEEM WITH MEEM WITH YEH FINAL FORMbaHAH WITH ALEF MAKSURA FINAL FORMb",
   "aMEEM WITH ALEF MAKSURA FINAL FORMqSEEN WITH KHAH WITH ALEF MAKSURA FINAL FORMrAD WITH HAH WI",
   "TH YEH FINAL FORMrHEEN WITH HAH WITH YEH FINAL FORMqDAD WITH HAH WITH YEH FINAL FORMqLAM WITH",
   " JEEM WITH YEH FINAL FORMzMEEM WITH YEH FINAL FORMqYEH WITH HAH WITH YEH FINAL FORMzJEEM WITH",
   " YEH FINAL FORMzMEEM WITH YEH FINAL FORMqMEEM WITH MEEM WITH YEH FINAL FORMqQAF WITH MEEM WIT",
   "H YEH FINAL FORMqNOON WITH HAH WITH YEH FINAL FORMqQAF WITH MEEM WITH HAH INITIAL FORMqLAM WI",
   "TH HAH WITH MEEM INITIAL FORMqAIN WITH MEEM WITH YEH FINAL FORMqKAF WITH MEEM WITH YEH FINAL ",
   "FORMqNOON WITH JEEM WITH HAH INITIAL FORMqMEEM WITH KHAH WITH YEH FINAL FORMqLAM WITH JEEM WI",
   "TH MEEM INITIAL FORMqKAF WITH MEEM WITH MEEM FINAL FORMqLAM WITH JEEM WITH MEEM FINAL FORMqNO",
   "ON WITH JEEM WITH HAH FINAL FORMqJEEM WITH HAH WITH YEH FINAL FORMqHAH WITH JEEM WITH YEH FIN",
   "AL FORMqMEEM WITH JEEM WITH YEH FINAL FORMqFEH WITH MEEM WITH YEH FINAL FORMqBEH WITH HAH WIT",
   "H YEH FINAL FORMqKAF WITH MEEM WITH MEEM INITIAL FORMqAIN WITH JEEM WITH MEEM INITIAL FORMqSA",
   "D WITH MEEM WITH MEEM INITIAL FORMrEEN WITH KHAH WITH YEH FINAL FORMqNOON WITH JEEM WITH YEH ",
   "FINAL FORM@64975qSALAAMUHU ALAYNAA@65008tLA USED AS KORANIC STOP SIGN ISOLATED FORMqQALA USED",
   " AS KORANIC STOP SIGN ISOLATED FORMqALLAH ISOLATED FORMrKBAR ISOLATED FORMqMOHAMMAD ISOLATED ",
   "FORMqSALAM ISOLATED FORMqRASOUL ISOLATED FORMqALAYHE ISOLATED FORMqWASALLAM ISOLATED FORMqSAL",
   "LA ISOLATED FORMvLLAHOU ALAYHE WASALLAMqJALLAJALALOUHOUaRIAL SIGNaARABIC LIGATURE BISMILLAH A",
   "R-RAHMAN AR-RAHEEMqSUBHAANAHU WA TAAALAAqAZZA WA JALLaVARIATION SELECTOR-1t2t3t4t5t6t7t8t9t10",
   "u1u2u3u4u5u6aPRESENTATION FORM FOR VERTICAL COMMAbfIDEOGRAPHIC COMMAbrFULL STOPbfCOLONbfSEMIC",
   "OLONbfEXCLAMATION MARKbfQUESTION MARKbfLEFT WHITE LENTICULAR BRACKETbfRIGHT WHITE LENTICULAR ",
   "BRAKCETbfHORIZONTAL ELLIPSIS@65056aCOMBINING LIGATURE LEFT HALFtRIGHT HALFkDOUBLE TILDE LEFT ",
   "HALFxRIGHT HALFkMACRON LEFT HALFrRIGHT HALFkCONJOINING MACRONkLIGATURE LEFT HALF BELOWtRIGHT ",
   "HALF BELOWkTILDE LEFT HALF BELOWqRIGHT HALF BELOWkMACRON LEFT HALF BELOWrRIGHT HALF BELOWkCON",
   "JOINING MACRON BELOWlYRILLIC TITLO LEFT HALFzRIGHT HALFaPRESENTATION FORM FOR VERTICAL TWO DO",
   "T LEADERbfEM DASHbgN DASHbfLOW LINEbfWAVY LOW LINEbfLEFT PARENTHESISbfRIGHT PARENTHESISbfLEFT",
   " CURLY BRACKETbfRIGHT CURLY BRACKETbfLEFT TORTOISE SHELL BRACKETbfRIGHT TORTOISE SHELL BRACKE",
   "TbfLEFT BLACK LENTICULAR BRACKETbfRIGHT BLACK LENTICULAR BRACKETbfLEFT DOUBLE ANGLE BRACKETbf",
   "RIGHT DOUBLE ANGLE BRACKETbfLEFT ANGLE BRACKETbfRIGHT ANGLE BRACKETbfLEFT CORNER BRACKETbfRIG",
   "HT CORNER BRACKETbfLEFT WHITE CORNER BRACKETbfRIGHT WHITE CORNER BRACKETaSESAME DOTaWHITE SES",
   "AME DOTaPRESENTATION FORM FOR VERTICAL LEFT SQUARE BRACKETbfRIGHT SQUARE BRACKETaDASHED OVERL",
   "INEaCENTRELINE OVERLINEaWAVY OVERLINEaDOUBLE WAVY OVERLINEbASHED LOW LINEaCENTRELINE LOW LINE",
   "aWAVY LOW LINEaSMALL COMMAgIDEOGRAPHIC COMMAgFULL STOP@65108gSEMICOLONgCOLONgQUESTION MARKgEX",
   "CLAMATION MARKhM DASHgLEFT PARENTHESISgRIGHT PARENTHESISgLEFT CURLY BRACKETgRIGHT CURLY BRACK",
   "ETgLEFT TORTOISE SHELL BRACKETgRIGHT TORTOISE SHELL BRACKETgNUMBER SIGNgAMPERSANDhSTERISKgPLU",
   "S SIGNgHYPHEN-MINUSgLESS-THAN SIGNgGREATER-THAN SIGNgEQUALS SIGN@65128gREVERSE SOLIDUSgDOLLAR",
   " SIGNgPERCENT SIGNgCOMMERCIAL AT@65136aARABIC FATHATAN ISOLATED FORMhTATWEEL WITH FATHATAN AB",
   "OVEhDAMMATAN ISOLATED FORMhTAIL FRAGMENThKASRATAN ISOLATED FORM@65142hFATHA ISOLATED FORMnMED",
   "IAL FORMhDAMMA ISOLATED FORMnMEDIAL FORMhKASRA ISOLATED FORMnMEDIAL FORMhSHADDA ISOLATED FORM",
   "oMEDIAL FORMiUKUN ISOLATED FORMnMEDIAL FORMhLETTER HAMZA ISOLATED FORMoALEF WITH MADDA ABOVE ",
   "ISOLATED FORMbkFINAL FORMyHAMZA ABOVE ISOLATED FORMbkFINAL FORMoWAW WITH HAMZA ABOVE ISOLATED",
   " FORMbjFINAL FORMoALEF WITH HAMZA BELOW ISOLATED FORMbkFINAL FORMoYEH WITH HAMZA ABOVE ISOLAT",
   "ED FORMbjFINAL FORMbjINITIAL FORMbjMEDIAL FORMoALEF ISOLATED FORMtFINAL FORMoBEH ISOLATED FOR",
   "MsFINAL FORMsINITIAL FORMsMEDIAL FORMoTEH MARBUTA ISOLATED FORMbaFINAL FORMsISOLATED FORMsFIN",
   "AL FORMsINITIAL FORMsMEDIAL FORMpHEH ISOLATED FORMtFINAL FORMtINITIAL FORMtMEDIAL FORMoJEEM I",
   "SOLATED FORMtFINAL FORMtINITIAL FORMtMEDIAL FORMoHAH ISOLATED FORMsFINAL FORMsINITIAL FORMsME",
   "DIAL FORMoKHAH ISOLATED FORMtFINAL FORMtINITIAL FORMtMEDIAL FORMoDAL ISOLATED FORMsFINAL FORM",
   "oTHAL ISOLATED FORMtFINAL FORMoREH ISOLATED FORMsFINAL FORMoZAIN ISOLATED FORMtFINAL FORMoSEE",
   "N ISOLATED FORMtFINAL FORMtINITIAL FORMtMEDIAL FORMpHEEN ISOLATED FORMuFINAL FORMuINITIAL FOR",
   "MuMEDIAL FORMpAD ISOLATED FORMsFINAL FORMsINITIAL FORMsMEDIAL FORMoDAD ISOLATED FORMsFINAL FO",
   "RMsINITIAL FORMsMEDIAL FORMoTAH ISOLATED FORMsFINAL FORMsINITIAL FORMsMEDIAL FORMoZAH ISOLATE",
   "D FORMsFINAL FORMsINITIAL FORMsMEDIAL FORMoAIN ISOLATED FORMsFINAL FORMsINITIAL FORMsMEDIAL F",
   "ORMoGHAIN ISOLATED FORMuFINAL FORMuINITIAL FORMuMEDIAL FORMoFEH ISOLATED FORMsFINAL FORMsINIT",
   "IAL FORMsMEDIAL FORMoQAF ISOLATED FORMsFINAL FORMsINITIAL FORMsMEDIAL FORMoKAF ISOLATED FORMs",
   "FINAL FORMsINITIAL FORMsMEDIAL FORMoLAM ISOLATED FORMsFINAL FORMsINITIAL FORMsMEDIAL FORMoMEE",
   "M ISOLATED FORMtFINAL FORMtINITIAL FORMtMEDIAL FORMoNOON ISOLATED FORMtFINAL FORMtINITIAL FOR",
   "MtMEDIAL FORMoHEH ISOLATED FORMsFINAL FORMsINITIAL FORMsMEDIAL FORMoWAW ISOLATED FORMsFINAL F",
   "ORMoALEF MAKSURA ISOLATED FORMbbFINAL FORMoYEH ISOLATED FORMsFINAL FORMsINITIAL FORMsMEDIAL F",
   "ORMiIGATURE LAM WITH ALEF WITH MADDA ABOVE ISOLATED FORMbvFINAL FORMbjHAMZA ABOVE ISOLATED FO",
   "RMbvFINAL FORMbpBELOW ISOLATED FORMbvFINAL FORMbeISOLATED FORMbeFINAL FORM@65279aZERO WIDTH N",
   "O-BREAK SPACE@65281aFULLWIDTH EXCLAMATION MARKkQUOTATION MARKkNUMBER SIGNkDOLLAR SIGNkPERCENT",
   " SIGNkAMPERSANDlPOSTROPHEkLEFT PARENTHESISkRIGHT PARENTHESISkASTERISKkPLUS SIGNkCOMMAkHYPHEN-",
   "MINUSkFULL STOPkSOLIDUSkDIGIT ZEROqONEqTWOrHREEqFOURrIVEqSIXrEVENqEIGHTqNINEkCOLONkSEMICOLONk",
   "LESS-THAN SIGNkEQUALS SIGNkGREATER-THAN SIGNkQUESTION MARKkCOMMERCIAL ATkLATIN CAPITAL LETTER",
   " AbfBbfCbfDbfEbfFbfGbfHbfIbfJbfKbfLbfMbfNbfObfPbfQbfRbfSbfTbfUbfVbfWbfXbfYbfZlEFT SQUARE BRAC",
   "KETkREVERSE SOLIDUSlIGHT SQUARE BRACKETkCIRCUMFLEX ACCENTkLOW LINEkGRAVE ACCENTkLATIN SMALL L",
   "ETTER AbdBbdCbdDbdEbdFbdGbdHbdIbdJbdKbdLbdMbdNbdObdPbdQbdRbdSbdTbdUbdVbdWbdXbdYbdZlEFT CURLY ",
   "BRACKETkVERTICAL LINEkRIGHT CURLY BRACKETkTILDEkLEFT WHITE PARENTHESISkRIGHT WHITE PARENTHESI",
   "SaHALFWIDTH IDEOGRAPHIC FULL STOPkLEFT CORNER BRACKETkRIGHT CORNER BRACKETkIDEOGRAPHIC COMMAk",
   "KATAKANA MIDDLE DOTtLETTER WObaSMALL AbgIbgUbgEbgObgYAbhUbhObgTUs-HIRAGANA PROLONGED SOUND MA",
   "RKs LETTER AbaIbaUbaEbaObaKAbbIbbUbbEbbObaSAbbIbbUbbEbbObaTAbbIbbUbbEbbObaNAbbIbbUbbEbbObaHAb",
   "bIbbUbbEbbObaMAbbIbbUbbEbbObaYAbbUbbObaRAbbIbbUbbEbbObaWAbaNtVOICED SOUND MARKtSEMI-VOICED SO",
   "UND MARKkHANGUL FILLERrLETTER KIYEOKySSANGKIYEOKyKIYEOK-SIOSyNIEUNbd-CIEUCbeHIEUHyTIKEUTySSAN",
   "GTIKEUTyRIEULbd-KIYEOKbeMIEUMbePIEUPbeSIOSbeTHIEUTHbePHIEUPHbeHIEUHyMIEUMyPIEUPySSANGPIEUPyPI",
   "EUP-SIOSySIOSzSANGSIOSyIEUNGyCIEUCySSANGCIEUCyCHIEUCHyKHIEUKHyTHIEUTHyPHIEUPHyHIEUH@65474yAzE",
   "yYAbaEyEOyE@65482yYEOzEyOyWAbaEyOE@65490yYOyUyWEOzEzIyYU@65498yEUyYIyI@65504aFULLWIDTH CENT S",
   "IGNkPOUND SIGNkNOT SIGNkMACRONkBROKEN BARkYEN SIGNkWON SIGN@65512aHALFWIDTH FORMS LIGHT VERTI",
   "CALkLEFTWARDS ARROWkUPWARDS ARROWkRIGHTWARDS ARROWkDOWNWARDS ARROWkBLACK SQUAREkWHITE CIRCLE@",
   "65529aINTERLINEAR ANNOTATION ANCHORxSEPARATORxTERMINATORaOBJECT REPLACEMENT CHARACTERaREPLACE",
   "MENT CHARACTER"]

end CallSites.Text.CharacterName
