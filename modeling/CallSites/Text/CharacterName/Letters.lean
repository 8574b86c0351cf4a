/-! # Names of characters of the older scripts

The characters below U+2000, which are mostly letters.
-/

namespace CallSites.Text.CharacterName

/-- The names of these characters in the order of their code points, cut into lines. A number in
base ten starts a run of characters; a name starts with small letters that say, in base twenty-six,
how much of it is taken from the name before. -/
def letters : List String :=
  ["@32aSPACEaEXCLAMATION MARKaQUOTATION MARKaNUMBER SIGNaDOLLAR SIGNaPERCENT SIGNaAMPERSANDbPOST",
   "ROPHEaLEFT PARENTHESISaRIGHT PARENTHESISaASTERISKaPLUS SIGNaCOMMAaHYPHEN-MINUSaFULL STOPaSOLI",
   "DUSaDIGIT ZEROgONEgTWOhHREEgFOURhIVEgSIXhEVENgEIGHTgNINEaCOLONaSEMICOLONaLESS-THAN SIGNaEQUAL",
   "S SIGNaGREATER-THAN SIGNaQUESTION MARKaCOMMERCIAL ATaLATIN CAPITAL LETTER AvBvCvDvEvFvGvHvIvJ",
   "vKvLvMvNvOvPvQvRvSvTvUvVvWvXvYvZbEFT SQUARE BRACKETaREVERSE SOLIDUSbIGHT SQUARE BRACKETaCIRCU",
   "MFLEX ACCENTaLOW LINEaGRAVE ACCENTaLATIN SMALL LETTER AtBtCtDtEtFtGtHtItJtKtLtMtNtOtPtQtRtStT",
   "tUtVtWtXtYtZbEFT CURLY BRACKETaVERTICAL LINEaRIGHT CURLY BRACKETaTILDE@160aNO-BREAK SPACEaINV",
   "ERTED EXCLAMATION MARKaCENT SIGNaPOUND SIGNaCURRENCY SIGNaYEN SIGNaBROKEN BARaSECTION SIGNaDI",
   "AERESISaCOPYRIGHT SIGNaFEMININE ORDINAL INDICATORaLEFT-POINTING DOUBLE ANGLE QUOTATION MARKaN",
   "OT SIGNaSOFT HYPHENaREGISTERED SIGNaMACRONaDEGREE SIGNaPLUS-MINUS SIGNaSUPERSCRIPT TWOnHREEaA",
   "CUTE ACCENTaMICRO SIGNaPILCROW SIGNaMIDDLE DOTaCEDILLAaSUPERSCRIPT ONEaMASCULINE ORDINAL INDI",
   "CATORaRIGHT-POINTING DOUBLE ANGLE QUOTATION MARKaVULGAR FRACTION ONE QUARTERuHALFqTHREE QUART",
   "ERSaINVERTED QUESTION MARKaLATIN CAPITAL LETTER A WITH GRAVEbcACUTEbcCIRCUMFLEXbcTILDEbcDIAER",
   "ESISbcRING ABOVEwEvC WITH CEDILLAvE WITH GRAVEbcACUTEbcCIRCUMFLEXbcDIAERESISvI WITH GRAVEbcAC",
   "UTEbcCIRCUMFLEXbcDIAERESISvETHvN WITH TILDEvO WITH GRAVEbcACUTEbcCIRCUMFLEXbcTILDEbcDIAERESIS",
   "aMULTIPLICATION SIGNaLATIN CAPITAL LETTER O WITH STROKEvU WITH GRAVEbcACUTEbcCIRCUMFLEXbcDIAE",
   "RESISvY WITH ACUTEvTHORNgSMALL LETTER SHARP StA WITH GRAVEbaACUTEbaCIRCUMFLEXbaTILDEbaDIAERES",
   "ISbaRING ABOVEuEtC WITH CEDILLAtE WITH GRAVEbaACUTEbaCIRCUMFLEXbaDIAERESIStI WITH GRAVEbaACUT",
   "EbaCIRCUMFLEXbaDIAERESIStETHtN WITH TILDEtO WITH GRAVEbaACUTEbaCIRCUMFLEXbaTILDEbaDIAERESISaD",
   "IVISION SIGNaLATIN SMALL LETTER O WITH STROKEtU WITH GRAVEbaACUTEbaCIRCUMFLEXbaDIAERESIStY WI",
   "TH ACUTEtTHORNtY WITH DIAERESISgCAPITAL LETTER A WITH MACRONgSMALL LETTER A WITH MACRONgCAPIT",
   "AL LETTER A WITH BREVEgSMALL LETTER A WITH BREVEgCAPITAL LETTER A WITH OGONEKgSMALL LETTER A ",
   "WITH OGONEKgCAPITAL LETTER C WITH ACUTEgSMALL LETTER C WITH ACUTEgCAPITAL LETTER C WITH CIRCU",
   "MFLEXgSMALL LETTER C WITH CIRCUMFLEXgCAPITAL LETTER C WITH DOT ABOVEgSMALL LETTER C WITH DOT ",
   "ABOVEgCAPITAL LETTER C WITH CARONgSMALL LETTER C WITH CARONgCAPITAL LETTER D WITH CARONgSMALL",
   " LETTER D WITH CARONgCAPITAL LETTER D WITH STROKEgSMALL LETTER D WITH STROKEgCAPITAL LETTER E",
   " WITH MACRONgSMALL LETTER E WITH MACRONgCAPITAL LETTER E WITH BREVEgSMALL LETTER E WITH BREVE",
   "gCAPITAL LETTER E WITH DOT ABOVEgSMALL LETTER E WITH DOT ABOVEgCAPITAL LETTER E WITH OGONEKgS",
   "MALL LETTER E WITH OGONEKgCAPITAL LETTER E WITH CARONgSMALL LETTER E WITH CARONgCAPITAL LETTE",
   "R G WITH CIRCUMFLEXgSMALL LETTER G WITH CIRCUMFLEXgCAPITAL LETTER G WITH BREVEgSMALL LETTER G",
   " WITH BREVEgCAPITAL LETTER G WITH DOT ABOVEgSMALL LETTER G WITH DOT ABOVEgCAPITAL LETTER G WI",
   "TH CEDILLAgSMALL LETTER G WITH CEDILLAgCAPITAL LETTER H WITH CIRCUMFLEXgSMALL LETTER H WITH C",
   "IRCUMFLEXgCAPITAL LETTER H WITH STROKEgSMALL LETTER H WITH STROKEgCAPITAL LETTER I WITH TILDE",
   "gSMALL LETTER I WITH TILDEgCAPITAL LETTER I WITH MACRONgSMALL LETTER I WITH MACRONgCAPITAL LE",
   "TTER I WITH BREVEgSMALL LETTER I WITH BREVEgCAPITAL LETTER I WITH OGONEKgSMALL LETTER I WITH ",
   "OGONEKgCAPITAL LETTER I WITH DOT ABOVEgSMALL LETTER DOTLESS IgCAPITAL LIGATURE IJgSMALL LIGAT",
   "URE IJgCAPITAL LETTER J WITH CIRCUMFLEXgSMALL LETTER J WITH CIRCUMFLEXgCAPITAL LETTER K WITH ",
   "CEDILLAgSMALL LETTER K WITH CEDILLAuRAgCAPITAL LETTER L WITH ACUTEgSMALL LETTER L WITH ACUTEg",
   "CAPITAL LETTER L WITH CEDILLAgSMALL LETTER L WITH CEDILLAgCAPITAL LETTER L WITH CARONgSMALL L",
   "ETTER L WITH CARONgCAPITAL LETTER L WITH MIDDLE DOTgSMALL LETTER L WITH MIDDLE DOTgCAPITAL LE",
   "TTER L WITH STROKEgSMALL LETTER L WITH STROKEgCAPITAL LETTER N WITH ACUTEgSMALL LETTER N WITH",
   " ACUTEgCAPITAL LETTER N WITH CEDILLAgSMALL LETTER N WITH CEDILLAgCAPITAL LETTER N WITH CARONg",
   "SMALL LETTER N WITH CARONvPRECEDED BY APOSTROPHEgCAPITAL LETTER ENGgSMALL LETTER ENGgCAPITAL ",
   "LETTER O WITH MACRONgSMALL LETTER O WITH MACRONgCAPITAL LETTER O WITH BREVEgSMALL LETTER O WI",
   "TH BREVEgCAPITAL LETTER O WITH DOUBLE ACUTEgSMALL LETTER O WITH DOUBLE ACUTEgCAPITAL LIGATURE",
   " OEgSMALL LIGATURE OEgCAPITAL LETTER R WITH ACUTEgSMALL LETTER R WITH ACUTEgCAPITAL LETTER R ",
   "WITH CEDILLAgSMALL LETTER R WITH CEDILLAgCAPITAL LETTER R WITH CARONgSMALL LETTER R WITH CARO",
   "NgCAPITAL LETTER S WITH ACUTEgSMALL LETTER S WITH ACUTEgCAPITAL LETTER S WITH CIRCUMFLEXgSMAL",
   "L LETTER S WITH CIRCUMFLEXgCAPITAL LETTER S WITH CEDILLAgSMALL LETTER S WITH CEDILLAgCAPITAL ",
   "LETTER S WITH CARONgSMALL LETTER S WITH CARONgCAPITAL LETTER T WITH CEDILLAgSMALL LETTER T WI",
   "TH CEDILLAgCAPITAL LETTER T WITH CARONgSMALL LETTER T WITH CARONgCAPITAL LETTER T WITH STROKE",
   "gSMALL LETTER T WITH STROKEgCAPITAL LETTER U WITH TILDEgSMALL LETTER U WITH TILDEgCAPITAL LET",
   "TER U WITH MACRONgSMALL LETTER U WITH MACRONgCAPITAL LETTER U WITH BREVEgSMALL LETTER U WITH ",
   "BREVEgCAPITAL LETTER U WITH RING ABOVEgSMALL LETTER U WITH RING ABOVEgCAPITAL LETTER U WITH D",
   "OUBLE ACUTEgSMALL LETTER U WITH DOUBLE ACUTEgCAPITAL LETTER U WITH OGONEKgSMALL LETTER U WITH",
   " OGONEKgCAPITAL LETTER W WITH CIRCUMFLEXgSMALL LETTER W WITH CIRCUMFLEXgCAPITAL LETTER Y WITH",
   " CIRCUMFLEXgSMALL LETTER Y WITH CIRCUMFLEXgCAPITAL LETTER Y WITH DIAERESISvZ WITH ACUTEgSMALL",
   " LETTER Z WITH ACUTEgCAPITAL LETTER Z WITH DOT ABOVEgSMALL LETTER Z WITH DOT ABOVEgCAPITAL LE",
   "TTER Z WITH CARONgSMALL LETTER Z WITH CARONtLONG StB WITH STROKEgCAPITAL LETTER B WITH HOOKbc",
   "TOPBARgSMALL LETTER B WITH TOPBARgCAPITAL LETTER TONE SIXgSMALL LETTER TONE SIXgCAPITAL LETTE",
   "R OPEN OvC WITH HOOKgSMALL LETTER C WITH HOOKgCAPITAL LETTER AFRICAN DvD WITH HOOKbcTOPBARgSM",
   "ALL LETTER D WITH TOPBARtTURNED DELTAgCAPITAL LETTER REVERSED EvSCHWAvOPEN EvF WITH HOOKgSMAL",
   "L LETTER F WITH HOOKgCAPITAL LETTER G WITH HOOKwAMMAgSMALL LETTER HVgCAPITAL LETTER IOTAw WIT",
   "H STROKEvK WITH HOOKgSMALL LETTER K WITH HOOKtL WITH BARuAMBDA WITH STROKEgCAPITAL LETTER TUR",
   "NED MvN WITH LEFT HOOKgSMALL LETTER N WITH LONG RIGHT LEGgCAPITAL LETTER O WITH MIDDLE TILDEb",
   "cHORNgSMALL LETTER O WITH HORNgCAPITAL LETTER OIgSMALL LETTER OIgCAPITAL LETTER P WITH HOOKgS",
   "MALL LETTER P WITH HOOKgLETTER YRgCAPITAL LETTER TONE TWOgSMALL LETTER TONE TWOgCAPITAL LETTE",
   "R ESHgLETTER REVERSED ESH LOOPgSMALL LETTER T WITH PALATAL HOOKgCAPITAL LETTER T WITH HOOKgSM",
   "ALL LETTER T WITH HOOKgCAPITAL LETTER T WITH RETROFLEX HOOKvU WITH HORNgSMALL LETTER U WITH H",
   "ORNgCAPITAL LETTER UPSILONvV WITH HOOKvY WITH HOOKgSMALL LETTER Y WITH HOOKgCAPITAL LETTER Z ",
   "WITH STROKEgSMALL LETTER Z WITH STROKEgCAPITAL LETTER EZHy REVERSEDgSMALL LETTER EZH REVERSED",
   "xWITH TAILgLETTER TWO WITH STROKEgCAPITAL LETTER TONE FIVEgSMALL LETTER TONE FIVEgLETTER INVE",
   "RTED GLOTTAL STOP WITH STROKEnWYNNnDENTAL CLICKnLATERAL CLICKnALVEOLAR CLICKnRETROFLEX CLICKg",
   "CAPITAL LETTER DZ WITH CARONw WITH SMALL LETTER Z WITH CARONgSMALL LETTER DZ WITH CARONgCAPIT",
   "AL LETTER LJw WITH SMALL LETTER JgSMALL LETTER LJgCAPITAL LETTER NJw WITH SMALL LETTER JgSMAL",
   "L LETTER NJgCAPITAL LETTER A WITH CARONgSMALL LETTER A WITH CARONgCAPITAL LETTER I WITH CARON",
   "gSMALL LETTER I WITH CARONgCAPITAL LETTER O WITH CARONgSMALL LETTER O WITH CARONgCAPITAL LETT",
   "ER U WITH CARONgSMALL LETTER U WITH CARONgCAPITAL LETTER U WITH DIAERESIS AND MACRONgSMALL LE",
   "TTER U WITH DIAERESIS AND MACRONgCAPITAL LETTER U WITH DIAERESIS AND ACUTEgSMALL LETTER U WIT",
   "H DIAERESIS AND ACUTEgCAPITAL LETTER U WITH DIAERESIS AND CARONgSMALL LETTER U WITH DIAERESIS",
   " AND CARONgCAPITAL LETTER U WITH DIAERESIS AND GRAVEgSMALL LETTER U WITH DIAERESIS AND GRAVEt",
   "TURNED EgCAPITAL LETTER A WITH DIAERESIS AND MACRONgSMALL LETTER A WITH DIAERESIS AND MACRONg",
   "CAPITAL LETTER A WITH DOT ABOVE AND MACRONgSMALL LETTER A WITH DOT ABOVE AND MACRONgCAPITAL L",
   "ETTER AE WITH MACRONgSMALL LETTER AE WITH MACRONgCAPITAL LETTER G WITH STROKEgSMALL LETTER G ",
   "WITH STROKEgCAPITAL LETTER G WITH CARONgSMALL LETTER G WITH CARONgCAPITAL LETTER K WITH CARON",
   "gSMALL LETTER K WITH CARONgCAPITAL LETTER O WITH OGONEKgSMALL LETTER O WITH OGONEKgCAPITAL LE",
   "TTER O WITH OGONEK AND MACRONgSMALL LETTER O WITH OGONEK AND MACRONgCAPITAL LETTER EZH WITH C",
   "ARONgSMALL LETTER EZH WITH CARONtJ WITH CARONgCAPITAL LETTER DZw WITH SMALL LETTER ZgSMALL LE",
   "TTER DZgCAPITAL LETTER G WITH ACUTEgSMALL LETTER G WITH ACUTEgCAPITAL LETTER HWAIRvWYNNvN WIT",
   "H GRAVEgSMALL LETTER N WITH GRAVEgCAPITAL LETTER A WITH RING ABOVE AND ACUTEgSMALL LETTER A W",
   "ITH RING ABOVE AND ACUTEgCAPITAL LETTER AE WITH ACUTEgSMALL LETTER AE WITH ACUTEgCAPITAL LETT",
   "ER O WITH STROKE AND ACUTEgSMALL LETTER O WITH STROKE AND ACUTEgCAPITAL LETTER A WITH DOUBLE ",
   "GRAVEgSMALL LETTER A WITH DOUBLE GRAVEgCAPITAL LETTER A WITH INVERTED BREVEgSMALL LETTER A WI",
   "TH INVERTED BREVEgCAPITAL LETTER E WITH DOUBLE GRAVEgSMALL LETTER E WITH DOUBLE GRAVEgCAPITAL",
   " LETTER E WITH INVERTED BREVEgSMALL LETTER E WITH INVERTED BREVEgCAPITAL LETTER I WITH DOUBLE",
   " GRAVEgSMALL LETTER I WITH DOUBLE GRAVEgCAPITAL LETTER I WITH INVERTED BREVEgSMALL LETTER I W",
   "ITH INVERTED BREVEgCAPITAL LETTER O WITH DOUBLE GRAVEgSMALL LETTER O WITH DOUBLE GRAVEgCAPITA",
   "L LETTER O WITH INVERTED BREVEgSMALL LETTER O WITH INVERTED BREVEgCAPITAL LETTER R WITH DOUBL",
   "E GRAVEgSMALL LETTER R WITH DOUBLE GRAVEgCAPITAL LETTER R WITH INVERTED BREVEgSMALL LETTER R ",
   "WITH INVERTED BREVEgCAPITAL LETTER U WITH DOUBLE GRAVEgSMALL LETTER U WITH DOUBLE GRAVEgCAPIT",
   "AL LETTER U WITH INVERTED BREVEgSMALL LETTER U WITH INVERTED BREVEgCAPITAL LETTER S WITH COMM",
   "A BELOWgSMALL LETTER S WITH COMMA BELOWgCAPITAL LETTER T WITH COMMA BELOWgSMALL LETTER T WITH",
   " COMMA BELOWgCAPITAL LETTER YOGHgSMALL LETTER YOGHgCAPITAL LETTER H WITH CARONgSMALL LETTER H",
   " WITH CARONgCAPITAL LETTER N WITH LONG RIGHT LEGgSMALL LETTER D WITH CURLgCAPITAL LETTER OUgS",
   "MALL LETTER OUgCAPITAL LETTER Z WITH HOOKgSMALL LETTER Z WITH HOOKgCAPITAL LETTER A WITH DOT ",
   "ABOVEgSMALL LETTER A WITH DOT ABOVEgCAPITAL LETTER E WITH CEDILLAgSMALL LETTER E WITH CEDILLA",
   "gCAPITAL LETTER O WITH DIAERESIS AND MACRONgSMALL LETTER O WITH DIAERESIS AND MACRONgCAPITAL ",
   "LETTER O WITH TILDE AND MACRONgSMALL LETTER O WITH TILDE AND MACRONgCAPITAL LETTER O WITH DOT",
   " ABOVEgSMALL LETTER O WITH DOT ABOVEgCAPITAL LETTER O WITH DOT ABOVE AND MACRONgSMALL LETTER ",
   "O WITH DOT ABOVE AND MACRONgCAPITAL LETTER Y WITH MACRONgSMALL LETTER Y WITH MACRONtL WITH CU",
   "RLtN WITH CURLtT WITH CURLtDOTLESS JuB DIGRAPHtQP DIGRAPHgCAPITAL LETTER A WITH STROKEvC WITH",
   " STROKEgSMALL LETTER C WITH STROKEgCAPITAL LETTER L WITH BARvT WITH DIAGONAL STROKEgSMALL LET",
   "TER S WITH SWASH TAILtZ WITH SWASH TAILgCAPITAL LETTER GLOTTAL STOPgSMALL LETTER GLOTTAL STOP",
   "gCAPITAL LETTER B WITH STROKEvU BARvTURNED VvE WITH STROKEgSMALL LETTER E WITH STROKEgCAPITAL",
   " LETTER J WITH STROKEgSMALL LETTER J WITH STROKEgCAPITAL LETTER SMALL Q WITH HOOK TAILgSMALL ",
   "LETTER Q WITH HOOK TAILgCAPITAL LETTER R WITH STROKEgSMALL LETTER R WITH STROKEgCAPITAL LETTE",
   "R Y WITH STROKEgSMALL LETTER Y WITH STROKEtTURNED AtALPHAtTURNED ALPHAtB WITH HOOKtOPEN OtC W",
   "ITH CURLtD WITH TAILbaHOOKtREVERSED EtSCHWAy WITH HOOKtOPEN EtREVERSED OPEN Ebi WITH HOOKtCLO",
   "SED REVERSED OPEN EtDOTLESS J WITH STROKEtG WITH HOOKtSCRIPT GgLETTER SMALL CAPITAL GgSMALL L",
   "ETTER GAMMAtRAMS HORNtTURNED HtH WITH HOOKuENG WITH HOOKtI WITH STROKEuOTAgLETTER SMALL CAPIT",
   "AL IgSMALL LETTER L WITH MIDDLE TILDEbaBELTbaRETROFLEX HOOKuEZHtTURNED Mbb WITH LONG LEGtM WI",
   "TH HOOKtN WITH LEFT HOOKbaRETROFLEX HOOKgLETTER SMALL CAPITAL NgSMALL LETTER BARRED OgLETTER ",
   "SMALL CAPITAL OEgSMALL LETTER CLOSED OMEGAtPHItTURNED Rbb WITH LONG LEGbhHOOKtR WITH LONG LEG",
   "baTAILbaFISHHOOKuEVERSED R WITH FISHHOOKgLETTER SMALL CAPITAL RbbINVERTED RgSMALL LETTER S WI",
   "TH HOOKtESHtDOTLESS J WITH STROKE AND HOOKtSQUAT REVERSED ESHtESH WITH CURLtTURNED Tu WITH RE",
   "TROFLEX HOOKtU BARuPSILONtV WITH HOOKtTURNED VbaWbaYgLETTER SMALL CAPITAL YgSMALL LETTER Z WI",
   "TH RETROFLEX HOOKbaCURLtEZHw WITH CURLgLETTER GLOTTAL STOPnPHARYNGEAL VOICED FRICATIVEnINVERT",
   "ED GLOTTAL STOPnSTRETCHED CnBILABIAL CLICKnSMALL CAPITAL BgSMALL LETTER CLOSED OPEN EgLETTER ",
   "SMALL CAPITAL G WITH HOOKbbHgSMALL LETTER J WITH CROSSED-TAILtTURNED KgLETTER SMALL CAPITAL L",
   "gSMALL LETTER Q WITH HOOKgLETTER GLOTTAL STOP WITH STROKEnREVERSED GLOTTAL STOP WITH STROKEgS",
   "MALL LETTER DZ DIGRAPHuEZH DIGRAPHuZ DIGRAPH WITH CURLtTS DIGRAPHuESH DIGRAPHuC DIGRAPH WITH ",
   "CURLtFENG DIGRAPHtLS DIGRAPHuZ DIGRAPHgLETTER BILABIAL PERCUSSIVEpDENTAL PERCUSSIVEgSMALL LET",
   "TER TURNED H WITH FISHHOOKbp AND TAILaMODIFIER LETTER SMALL Hx WITH HOOKwJwRwTURNED Rbe WITH ",
   "HOOKwCAPITAL INVERTED RwWwYqPRIMEqDOUBLE PRIMEqTURNED COMMAqAPOSTROPHEqREVERSED COMMArIGHT HA",
   "LF RINGqLEFT HALF RINGqGLOTTAL STOPqREVERSED GLOTTAL STOPqLEFT ARROWHEADqRIGHT ARROWHEADqUP A",
   "RROWHEADqDOWN ARROWHEADqCIRCUMFLEX ACCENTaCARONaMODIFIER LETTER VERTICAL LINEqMACRONqACUTE AC",
   "CENTqGRAVE ACCENTqLOW VERTICAL LINEuMACRONuGRAVE ACCENTuACUTE ACCENTqTRIANGULAR COLONqHALF TR",
   "IANGULAR COLONqCENTRED RIGHT HALF RINGyLEFT HALF RINGqUP TACKqDOWN TACKqPLUS SIGNqMINUS SIGNa",
   "BREVEaDOT ABOVEaRING ABOVEaOGONEKaSMALL TILDEaDOUBLE ACUTE ACCENTaMODIFIER LETTER RHOTIC HOOK",
   "qCROSS ACCENTqSMALL GAMMAwLwSwXwREVERSED GLOTTAL STOPqEXTRA-HIGH TONE BARqHIGH TONE BARqMID T",
   "ONE BARqLOW TONE BARqEXTRA-LOW TONE BARqYIN DEPARTING TONE MARKrANG DEPARTING TONE MARKqVOICI",
   "NGqUNASPIRATEDqDOUBLE APOSTROPHEqLOW DOWN ARROWHEADuUP ARROWHEADuLEFT ARROWHEADuRIGHT ARROWHE",
   "ADwNGqMIDDLE GRAVE ACCENTxDOUBLE GRAVE ACCENTbeACUTE ACCENTqLOW TILDEqRAISED COLONqBEGIN HIGH",
   " TONEqEND HIGH TONEqBEGIN LOW TONEqEND LOW TONEqSHELFqOPEN SHELFqLOW LEFT ARROWaCOMBINING GRA",
   "VE ACCENTkACUTE ACCENTkCIRCUMFLEX ACCENTkTILDEkMACRONkOVERLINEkBREVEkDOT ABOVElIAERESISkHOOK ",
   "ABOVEkRING ABOVEkDOUBLE ACUTE ACCENTkCARONkVERTICAL LINE ABOVEkDOUBLE VERTICAL LINE ABOVErGRA",
   "VE ACCENTkCANDRABINDUkINVERTED BREVEkTURNED COMMA ABOVEkCOMMA ABOVEkREVERSED COMMA ABOVEkCOMM",
   "A ABOVE RIGHTkGRAVE ACCENT BELOWkACUTE ACCENT BELOWkLEFT TACK BELOWkRIGHT TACK BELOWkLEFT ANG",
   "LE ABOVEkHORNkLEFT HALF RING BELOWkUP TACK BELOWkDOWN TACK BELOWkPLUS SIGN BELOWkMINUS SIGN B",
   "ELOWkPALATALIZED HOOK BELOWkRETROFLEX HOOK BELOWkDOT BELOWlIAERESIS BELOWkRING BELOWkCOMMA BE",
   "LOWlEDILLAkOGONEKkVERTICAL LINE BELOWkBRIDGE BELOWkINVERTED DOUBLE ARCH BELOWkCARON BELOWlIRC",
   "UMFLEX ACCENT BELOWkBREVE BELOWkINVERTED BREVE BELOWkTILDE BELOWkMACRON BELOWkLOW LINEkDOUBLE",
   " LOW LINEkTILDE OVERLAYkSHORT STROKE OVERLAYkLONG STROKE OVERLAYkSHORT SOLIDUS OVERLAYkLONG S",
   "OLIDUS OVERLAYkRIGHT HALF RING BELOWkINVERTED BRIDGE BELOWkSQUARE BELOWlEAGULL BELOWkX ABOVEk",
   "VERTICAL TILDEkDOUBLE OVERLINEkGRAVE TONE MARKkACUTE TONE MARKkGREEK PERISPOMENIqKORONISqDIAL",
   "YTIKA TONOSqYPOGEGRAMMENIkBRIDGE ABOVEkEQUALS SIGN BELOWkDOUBLE VERTICAL LINE BELOWkLEFT ANGL",
   "E BELOWkNOT TILDE ABOVEkHOMOTHETIC ABOVEkALMOST EQUAL TO ABOVEkLEFT RIGHT ARROW BELOWkUPWARDS",
   " ARROW BELOWkGRAPHEME JOINERkRIGHT ARROWHEAD ABOVEkLEFT HALF RING ABOVEkFERMATAkX BELOWkLEFT ",
   "ARROWHEAD BELOWkRIGHT ARROWHEAD BELOWbaAND UP ARROWHEAD BELOWqHALF RING ABOVEkDOT ABOVE RIGHT",
   "kASTERISK BELOWkDOUBLE RING BELOWkZIGZAG ABOVEkDOUBLE BREVE BELOWvErMACRONx BELOWrTILDErINVER",
   "TED BREVErRIGHTWARDS ARROW BELOWkLATIN SMALL LETTER AbdEbdIbdObdUbdCbdDbdHbdMbdRbdTbdVbdXaGRE",
   "EK CAPITAL LETTER HETAgSMALL LETTER HETAgCAPITAL LETTER ARCHAIC SAMPIgSMALL LETTER ARCHAIC SA",
   "MPIgNUMERAL SIGNgLOWER NUMERAL SIGNgCAPITAL LETTER PAMPHYLIAN DIGAMMAgSMALL LETTER PAMPHYLIAN",
   " DIGAMMA@890gYPOGEGRAMMENIgSMALL REVERSED LUNATE SIGMA SYMBOLmDOTTED LUNATE SIGMA SYMBOLmREVE",
   "RSED DOTTED LUNATE SIGMA SYMBOLgQUESTION MARKgCAPITAL LETTER YOT@900gTONOSgDIALYTIKA TONOSgCA",
   "PITAL LETTER ALPHA WITH TONOSgANO TELEIAgCAPITAL LETTER EPSILON WITH TONOSwTA WITH TONOSvIOTA",
   " WITH TONOS@908vOMICRON WITH TONOS@910vUPSILON WITH TONOSvOMEGA WITH TONOSgSMALL LETTER IOTA ",
   "WITH DIALYTIKA AND TONOSgCAPITAL LETTER ALPHAvBETAvGAMMAvDELTAvEPSILONvZETAvETAvTHETAvIOTAvKA",
   "PPAvLAMDAvMUvNUvXIvOMICRONvPIvRHO@931vSIGMAvTAUvUPSILONvPHIvCHIvPSIvOMEGAvIOTA WITH DIALYTIKA",
   "vUPSILON WITH DIALYTIKAgSMALL LETTER ALPHA WITH TONOStEPSILON WITH TONOSuTA WITH TONOStIOTA W",
   "ITH TONOStUPSILON WITH DIALYTIKA AND TONOStALPHAtBETAtGAMMAtDELTAtEPSILONtZETAtETAtTHETAtIOTA",
   "tKAPPAtLAMDAtMUtNUtXItOMICRONtPItRHOtFINAL SIGMAtSIGMAtTAUtUPSILONtPHItCHItPSItOMEGAtIOTA WIT",
   "H DIALYTIKAtUPSILON WITH DIALYTIKAtOMICRON WITH TONOStUPSILON WITH TONOStOMEGA WITH TONOSgCAP",
   "ITAL KAI SYMBOLgBETA SYMBOLgTHETA SYMBOLgUPSILON WITH HOOK SYMBOLtACUTE AND HOOK SYMBOLtDIAER",
   "ESIS AND HOOK SYMBOLgPHI SYMBOLhI SYMBOLgKAI SYMBOLgLETTER ARCHAIC KOPPAgSMALL LETTER ARCHAIC",
   " KOPPAgLETTER STIGMAgSMALL LETTER STIGMAgLETTER DIGAMMAgSMALL LETTER DIGAMMAgLETTER KOPPAgSMA",
   "LL LETTER KOPPAgLETTER SAMPIgSMALL LETTER SAMPIaCOPTIC CAPITAL LETTER SHEIhSMALL LETTER SHEIh",
   "CAPITAL LETTER FEIhSMALL LETTER FEIhCAPITAL LETTER KHEIhSMALL LETTER KHEIhCAPITAL LETTER HORI",
   "hSMALL LETTER HORIhCAPITAL LETTER GANGIAhSMALL LETTER GANGIAhCAPITAL LETTER SHIMAhSMALL LETTE",
   "R SHIMAhCAPITAL LETTER DEIhSMALL LETTER DEIaGREEK KAPPA SYMBOLgRHO SYMBOLgLUNATE SIGMA SYMBOL",
   "hETTER YOTgCAPITAL THETA SYMBOLgLUNATE EPSILON SYMBOLgREVERSED LUNATE EPSILON SYMBOLgCAPITAL ",
   "LETTER SHOgSMALL LETTER SHOgCAPITAL LUNATE SIGMA SYMBOLpETTER SANgSMALL LETTER SANgRHO WITH S",
   "TROKE SYMBOLgCAPITAL REVERSED LUNATE SIGMA SYMBOLoDOTTED LUNATE SIGMA SYMBOLoREVERSED DOTTED ",
   "LUNATE SIGMA SYMBOLaCYRILLIC CAPITAL LETTER IE WITH GRAVEzOyDJEyGJEyUKRAINIAN IEyDZEyBYELORUS",
   "SIAN-UKRAINIAN IyYIyJEyLJEyNJEyTSHEyKJEyI WITH GRAVEySHORT UyDZHEyAyBEyVEyGHEyDEyIEyZHEzEyIyS",
   "HORT IyKAyELzMzNyOyPEyERzSyTEyUyEFyHAyTSEyCHEySHAbaCHAyHARD SIGNyYERUySOFT SIGNyEyYUzAjSMALL ",
   "LETTER AwBEwVEwGHEwDEwIEwZHExEwIwSHORT IwKAwELxMxNwOwPEwERxSwTEwUwEFwHAwTSEwCHEwSHAyCHAwHARD ",
   "SIGNwYERUwSOFT SIGNwEwYUxAwIE WITH GRAVExOwDJEwGJEwUKRAINIAN IEwDZEwBYELORUSSIAN-UKRAINIAN Iw",
   "YIwJEwLJEwNJEwTSHEwKJEwI WITH GRAVEwSHORT UwDZHEjCAPITAL LETTER OMEGAjSMALL LETTER OMEGAjCAPI",
   "TAL LETTER YATjSMALL LETTER YATjCAPITAL LETTER IOTIFIED EjSMALL LETTER IOTIFIED EjCAPITAL LET",
   "TER LITTLE YUSjSMALL LETTER LITTLE YUSjCAPITAL LETTER IOTIFIED LITTLE YUSjSMALL LETTER IOTIFI",
   "ED LITTLE YUSjCAPITAL LETTER BIG YUSjSMALL LETTER BIG YUSjCAPITAL LETTER IOTIFIED BIG YUSjSMA",
   "LL LETTER IOTIFIED BIG YUSjCAPITAL LETTER KSIjSMALL LETTER KSIjCAPITAL LETTER PSIjSMALL LETTE",
   "R PSIjCAPITAL LETTER FITAjSMALL LETTER FITAjCAPITAL LETTER IZHITSAjSMALL LETTER IZHITSAjCAPIT",
   "AL LETTER IZHITSA WITH DOUBLE GRAVE ACCENTjSMALL LETTER IZHITSA WITH DOUBLE GRAVE ACCENTjCAPI",
   "TAL LETTER UKjSMALL LETTER UKjCAPITAL LETTER ROUND OMEGAjSMALL LETTER ROUND OMEGAjCAPITAL LET",
   "TER OMEGA WITH TITLOjSMALL LETTER OMEGA WITH TITLOjCAPITAL LETTER OTjSMALL LETTER OTjCAPITAL ",
   "LETTER KOPPAjSMALL LETTER KOPPAjTHOUSANDS SIGNbOMBINING CYRILLIC TITLOtPALATALIZATIONtDASIA P",
   "NEUMATAtPSILI PNEUMATAuOKRYTIEtHUNDRED THOUSANDS SIGNtMILLIONS SIGNbYRILLIC CAPITAL LETTER SH",
   "ORT I WITH TAILjSMALL LETTER SHORT I WITH TAILjCAPITAL LETTER SEMISOFT SIGNjSMALL LETTER SEMI",
   "SOFT SIGNjCAPITAL LETTER ER WITH TICKjSMALL LETTER ER WITH TICKjCAPITAL LETTER GHE WITH UPTUR",
   "NjSMALL LETTER GHE WITH UPTURNjCAPITAL LETTER GHE WITH STROKEjSMALL LETTER GHE WITH STROKEjCA",
   "PITAL LETTER GHE WITH MIDDLE HOOKjSMALL LETTER GHE WITH MIDDLE HOOKjCAPITAL LETTER ZHE WITH D",
   "ESCENDERjSMALL LETTER ZHE WITH DESCENDERjCAPITAL LETTER ZE WITH DESCENDERjSMALL LETTER ZE WIT",
   "H DESCENDERjCAPITAL LETTER KA WITH DESCENDERjSMALL LETTER KA WITH DESCENDERjCAPITAL LETTER KA",
   " WITH VERTICAL STROKEjSMALL LETTER KA WITH VERTICAL STROKEjCAPITAL LETTER KA WITH STROKEjSMAL",
   "L LETTER KA WITH STROKEjCAPITAL LETTER BASHKIR KAjSMALL LETTER BASHKIR KAjCAPITAL LETTER EN W",
   "ITH DESCENDERjSMALL LETTER EN WITH DESCENDERjCAPITAL LIGATURE EN GHEjSMALL LIGATURE EN GHEjCA",
   "PITAL LETTER PE WITH MIDDLE HOOKjSMALL LETTER PE WITH MIDDLE HOOKjCAPITAL LETTER ABKHASIAN HA",
   "jSMALL LETTER ABKHASIAN HAjCAPITAL LETTER ES WITH DESCENDERjSMALL LETTER ES WITH DESCENDERjCA",
   "PITAL LETTER TE WITH DESCENDERjSMALL LETTER TE WITH DESCENDERjCAPITAL LETTER STRAIGHT UjSMALL",
   " LETTER STRAIGHT UjCAPITAL LETTER STRAIGHT U WITH STROKEjSMALL LETTER STRAIGHT U WITH STROKEj",
   "CAPITAL LETTER HA WITH DESCENDERjSMALL LETTER HA WITH DESCENDERjCAPITAL LIGATURE TE TSEjSMALL",
   " LIGATURE TE TSEjCAPITAL LETTER CHE WITH DESCENDERjSMALL LETTER CHE WITH DESCENDERjCAPITAL LE",
   "TTER CHE WITH VERTICAL STROKEjSMALL LETTER CHE WITH VERTICAL STROKEjCAPITAL LETTER SHHAjSMALL",
   " LETTER SHHAjCAPITAL LETTER ABKHASIAN CHEjSMALL LETTER ABKHASIAN CHEjCAPITAL LETTER ABKHASIAN",
   " CHE WITH DESCENDERjSMALL LETTER ABKHASIAN CHE WITH DESCENDERjLETTER PALOCHKAjCAPITAL LETTER ",
   "ZHE WITH BREVEjSMALL LETTER ZHE WITH BREVEjCAPITAL LETTER KA WITH HOOKjSMALL LETTER KA WITH H",
   "OOKjCAPITAL LETTER EL WITH TAILjSMALL LETTER EL WITH TAILjCAPITAL LETTER EN WITH HOOKjSMALL L",
   "ETTER EN WITH HOOKjCAPITAL LETTER EN WITH TAILjSMALL LETTER EN WITH TAILjCAPITAL LETTER KHAKA",
   "SSIAN CHEjSMALL LETTER KHAKASSIAN CHEjCAPITAL LETTER EM WITH TAILjSMALL LETTER EM WITH TAILwP",
   "ALOCHKAjCAPITAL LETTER A WITH BREVEjSMALL LETTER A WITH BREVEjCAPITAL LETTER A WITH DIAERESIS",
   "jSMALL LETTER A WITH DIAERESISjCAPITAL LIGATURE A IEjSMALL LIGATURE A IEjCAPITAL LETTER IE WI",
   "TH BREVEjSMALL LETTER IE WITH BREVEjCAPITAL LETTER SCHWAjSMALL LETTER SCHWAjCAPITAL LETTER SC",
   "HWA WITH DIAERESISjSMALL LETTER SCHWA WITH DIAERESISjCAPITAL LETTER ZHE WITH DIAERESISjSMALL ",
   "LETTER ZHE WITH DIAERESISjCAPITAL LETTER ZE WITH DIAERESISjSMALL LETTER ZE WITH DIAERESISjCAP",
   "ITAL LETTER ABKHASIAN DZEjSMALL LETTER ABKHASIAN DZEjCAPITAL LETTER I WITH MACRONjSMALL LETTE",
   "R I WITH MACRONjCAPITAL LETTER I WITH DIAERESISjSMALL LETTER I WITH DIAERESISjCAPITAL LETTER ",
   "O WITH DIAERESISjSMALL LETTER O WITH DIAERESISjCAPITAL LETTER BARRED OjSMALL LETTER BARRED Oj",
   "CAPITAL LETTER BARRED O WITH DIAERESISjSMALL LETTER BARRED O WITH DIAERESISjCAPITAL LETTER E ",
   "WITH DIAERESISjSMALL LETTER E WITH DIAERESISjCAPITAL LETTER U WITH MACRONjSMALL LETTER U WITH",
   " MACRONjCAPITAL LETTER U WITH DIAERESISjSMALL LETTER U WITH DIAERESISjCAPITAL LETTER U WITH D",
   "OUBLE ACUTEjSMALL LETTER U WITH DOUBLE ACUTEjCAPITAL LETTER CHE WITH DIAERESISjSMALL LETTER C",
   "HE WITH DIAERESISjCAPITAL LETTER GHE WITH DESCENDERjSMALL LETTER GHE WITH DESCENDERjCAPITAL L",
   "ETTER YERU WITH DIAERESISjSMALL LETTER YERU WITH DIAERESISjCAPITAL LETTER GHE WITH STROKE AND",
   " HOOKjSMALL LETTER GHE WITH STROKE AND HOOKjCAPITAL LETTER HA WITH HOOKjSMALL LETTER HA WITH ",
   "HOOKjCAPITAL LETTER HA WITH STROKEjSMALL LETTER HA WITH STROKEjCAPITAL LETTER KOMI DEjSMALL L",
   "ETTER KOMI DEjCAPITAL LETTER KOMI DJEjSMALL LETTER KOMI DJEjCAPITAL LETTER KOMI ZJEjSMALL LET",
   "TER KOMI ZJEjCAPITAL LETTER KOMI DZJEjSMALL LETTER KOMI DZJEjCAPITAL LETTER KOMI LJEjSMALL LE",
   "TTER KOMI LJEjCAPITAL LETTER KOMI NJEjSMALL LETTER KOMI NJEjCAPITAL LETTER KOMI SJEjSMALL LET",
   "TER KOMI SJEjCAPITAL LETTER KOMI TJEjSMALL LETTER KOMI TJEjCAPITAL LETTER REVERSED ZEjSMALL L",
   "ETTER REVERSED ZEjCAPITAL LETTER EL WITH HOOKjSMALL LETTER EL WITH HOOKjCAPITAL LETTER LHAjSM",
   "ALL LETTER LHAjCAPITAL LETTER RHAjSMALL LETTER RHAjCAPITAL LETTER YAEjSMALL LETTER YAEjCAPITA",
   "L LETTER QAjSMALL LETTER QAjCAPITAL LETTER WEjSMALL LETTER WEjCAPITAL LETTER ALEUT KAjSMALL L",
   "ETTER ALEUT KAjCAPITAL LETTER EL WITH MIDDLE HOOKjSMALL LETTER EL WITH MIDDLE HOOKjCAPITAL LE",
   "TTER EN WITH MIDDLE HOOKjSMALL LETTER EN WITH MIDDLE HOOKjCAPITAL LETTER PE WITH DESCENDERjSM",
   "ALL LETTER PE WITH DESCENDERjCAPITAL LETTER SHHA WITH DESCENDERjSMALL LETTER SHHA WITH DESCEN",
   "DERjCAPITAL LETTER EN WITH LEFT HOOKjSMALL LETTER EN WITH LEFT HOOKjCAPITAL LETTER DZZHEjSMAL",
   "L LETTER DZZHEjCAPITAL LETTER DCHEjSMALL LETTER DCHEjCAPITAL LETTER EL WITH DESCENDERjSMALL L",
   "ETTER EL WITH DESCENDER@1329aARMENIAN CAPITAL LETTER AYByBENyGIMyDAyECHyZAyEHzTyTOyZHEyINIyLI",
   "WNyXEHyCAyKENyHOyJAyGHADyCHEHyMENyYIyNOWySHAyVOyCHAyPEHyJHEHyRAySEHyVEWyTIWNyREHyCOyYIWNyPIWR",
   "yKEHyOHyFEH@1369jMODIFIER LETTER LEFT HALF RINGjAPOSTROPHEjEMPHASIS MARKkXCLAMATION MARKjCOMM",
   "AjQUESTION MARKjABBREVIATION MARKjSMALL LETTER TURNED AYBwAYBwBENwGIMwDAwECHwZAwEHxTwTOwZHEwI",
   "NIwLIWNwXEHwCAwKENwHOwJAwGHADwCHEHwMENwYIwNOWwSHAwVOwCHAwPEHwJHEHwRAwSEHwVEWwTIWNwREHwCOwYIWN",
   "wPIWRwKEHwOHwFEHqIGATURE ECH YIWNqETTER YI WITH STROKEjFULL STOPjHYPHEN@1421aRIGHT-FACING ARM",
   "ENIAN ETERNITY SIGNaLEFT-FACING ARMENIAN ETERNITY SIGNaARMENIAN DRAM SIGN@1425aHEBREW ACCENT ",
   "ETNAHTAoSEGOLpHALSHELEToZAQEF QATANuGADOLoTIPEHAoREVIAoZARQAoPASHTAoYETIVoTEVIRoGERESHu MUQDA",
   "MrSHAYIMoQARNEY PARAoTELISHA GEDOLAoPAZERoATNAH HAFUKHoMUNAHpAHAPAKHpERKHAu KEFULAoDARGAoQADM",
   "AoTELISHA QETANAoYERAH BEN YOMOoOLEoILUYoDEHIoZINORhMARK MASORA CIRCLEhPOINT SHEVAnHATAF SEGO",
   "LtPATAHtQAMATSoIRIQnTSEREnSEGOLnPATAHnQAMATSnHOLAMs HASER FOR VAVnQUBUTSnDAGESH OR MAPIQnMETE",
   "GiUNCTUATION MAQAFiOINT RAFEiUNCTUATION PASEQiOINT SHIN DOToIN DOTiUNCTUATION SOF PASUQhMARK ",
   "UPPER DOTmLOWER DOThPUNCTUATION NUN HAFUKHAiOINT QAMATS QATAN@1488hLETTER ALEFoBEToGIMELoDALE",
   "ToHEoVAVoZAYINoHEToTEToYODoFINAL KAFoKAFoLAMEDoFINAL MEMoMEMoFINAL NUNoNUNoSAMEKHoAYINoFINAL ",
   "PEoPEoFINAL TSADIoTSADIoQOFoRESHoSHINoTAV@1519hYOD TRIANGLEhLIGATURE YIDDISH DOUBLE VAVyVAV Y",
   "ODyDOUBLE YODhPUNCTUATION GERESHwSHAYIM@1536aARABIC NUMBER SIGNhSIGN SANAHhFOOTNOTE MARKERhSI",
   "GN SAFHAoMVAThNUMBER MARK ABOVEg-INDIC CUBE ROOTnFOURTH ROOTg RAYg-INDIC PER MILLE SIGNrTEN T",
   "HOUSAND SIGNbFGHANI SIGNbRABIC COMMAhDATE SEPARATORhPOETIC VERSE SIGNhSIGN MISRAmSALLALLAHOU ",
   "ALAYHE WASSALLAMmALAYHE ASSALLAMmRAHMATULLAH ALAYHEoDI ALLAHOU ANHUmTAKHALLUSiMALL HIGH TAHsL",
   "IGATURE ALEF WITH LAM WITH YEHsZAINnFATHAnDAMMAnKASRAiEMICOLONhLETTER MARKhEND OF TEXT MARKhT",
   "RIPLE DOT PUNCTUATION MARKhQUESTION MARKhLETTER KASHMIRI YEHoHAMZAoALEF WITH MADDA ABOVEyHAMZ",
   "A ABOVEoWAW WITH HAMZA ABOVEoALEF WITH HAMZA BELOWoYEH WITH HAMZA ABOVEoALEFoBEHoTEH MARBUTAq",
   "HpHEHoJEEMoHAHoKHAHoDALoTHALoREHoZAINoSEENpHEENpADoDADoTAHoZAHoAINoGHAINoKEHEH WITH TWO DOTS ",
   "ABOVEbaHREE DOTS BELOWoFARSI YEH WITH INVERTED VbdTWO DOTS ABOVEbeHREE DOTS ABOVEhTATWEELhLET",
   "TER FEHoQAFoKAFoLAMoMEEMoNOONoHEHoWAWoALEF MAKSURAoYEHhFATHATANhDAMMATANhKASRATANhFATHAhDAMMA",
   "hKASRAhSHADDAiUKUNhMADDAH ABOVEhHAMZA ABOVEnBELOWhSUBSCRIPT ALEFhINVERTED DAMMAhMARK NOON GHU",
   "NNAhZWARAKAYhVOWEL SIGN SMALL V ABOVEsINVERTED SMALL V ABOVEsDOT BELOWhREVERSED DAMMAhFATHA W",
   "ITH TWO DOTShWAVY HAMZA BELOWg-INDIC DIGIT ZEROtONEtTWOuHREEtFOURuIVEtSIXuEVENtEIGHTtNINEg PE",
   "RCENT SIGNhDECIMAL SEPARATORhTHOUSANDS SEPARATORhFIVE POINTED STARhLETTER DOTLESS BEHwQAFoSUP",
   "ERSCRIPT ALEFoALEF WASLAuITH WAVY HAMZA ABOVEbjBELOWoHIGH HAMZAy ALEFzWAWoU WITH HAMZA ABOVEo",
   "HIGH HAMZA YEHoTTEHsEHoBEEHoTEH WITH RINGxTHREE DOTS ABOVE DOWNWARDSoPEHoTEHEHoBEHEHoHAH WITH",
   " HAMZA ABOVExTWO DOTS VERTICAL ABOVEoNYEHoDYEHoHAH WITH THREE DOTS ABOVEoTCHEHtEHoDDALpAL WIT",
   "H RINGxDOT BELOWbg AND SMALL TAHqHALpDAHALpULpAL WITH THREE DOTS ABOVE DOWNWARDSxFOUR DOTS AB",
   "OVEoRREHpEH WITH SMALL VxRINGxDOT BELOWxSMALL V BELOWxDOT BELOW AND DOT ABOVExTWO DOTS ABOVEo",
   "JEHoREH WITH FOUR DOTS ABOVEoSEEN WITH DOT BELOW AND DOT ABOVEyTHREE DOTS BELOWbo AND THREE D",
   "OTS ABOVEpAD WITH TWO DOTS BELOWyHREE DOTS ABOVEoTAH WITH THREE DOTS ABOVEoAIN WITH THREE DOT",
   "S ABOVEoDOTLESS FEHoFEH WITH DOT MOVED BELOWbbBELOWoVEHoFEH WITH THREE DOTS BELOWoPEHEHoQAF W",
   "ITH DOT ABOVExTHREE DOTS ABOVEoKEHEHoSWASH KAFoKAF WITH RINGxDOT ABOVEoNGoKAF WITH THREE DOTS",
   " BELOWoGAFr WITH RINGoNGOEHoGAF WITH TWO DOTS BELOWpUEHpAF WITH THREE DOTS ABOVEoLAM WITH SMA",
   "LL VxDOT ABOVExTHREE DOTS ABOVEbiBELOWoNOON WITH DOT BELOWtGHUNNAoRNOONoNOON WITH RINGyTHREE ",
   "DOTS ABOVEoHEH DOACHASHMEEoTCHEH WITH DOT ABOVEoHEH WITH YEH ABOVEsGOALw WITH HAMZA ABOVEoTEH",
   " MARBUTA GOALoWAW WITH RINGoKIRGHIZ OEoOEoUoYUoKIRGHIZ YUoWAW WITH TWO DOTS ABOVEoVEoFARSI YE",
   "HoYEH WITH TAILxSMALL VoWAW WITH DOT ABOVEoEoYEH WITH THREE DOTS BELOWsBARREEy WITH HAMZA ABO",
   "VEhFULL STOPhLETTER AEhSMALL HIGH LIGATURE SAD WITH LAM WITH ALEF MAKSURAbbQAF WITH LAM WITH ",
   "ALEF MAKSURAsMEEM INITIAL FORMsLAM ALEFsJEEMsTHREE DOTSsSEENhEND OF AYAHhSTART OF RUB EL HIZB",
   "iMALL HIGH ROUNDED ZEROsUPRIGHT RECTANGULAR ZEROsDOTLESS HEAD OF KHAHsMEEM ISOLATED FORMnLOW ",
   "SEENnHIGH MADDAnWAWnYEHnHIGH YEHsNOONhPLACE OF SAJDAHhEMPTY CENTRE LOW STOPuHIGH STOPhROUNDED",
   " HIGH STOP WITH FILLED CENTREhSMALL LOW MEEMhLETTER DAL WITH INVERTED VoREH WITH INVERTED VaE",
   "XTENDED ARABIC-INDIC DIGIT ZERObcONEbcTWObdHREEbcFOURbdIVEbcSIXbdEVENbcEIGHTbcNINEaARABIC LET",
   "TER SHEEN WITH DOT BELOWoDAD WITH DOT BELOWoGHAIN WITH DOT BELOWhSIGN SINDHI AMPERSANDtPOSTPO",
   "SITION MENhLETTER HEH WITH INVERTED VaSYRIAC END OF PARAGRAPHhSUPRALINEAR FULL STOPjBLINEAR F",
   "ULL STOPjPRALINEAR COLONjBLINEAR COLONhHORIZONTAL COLONhCOLON SKEWED LEFTuRIGHThSUPRALINEAR C",
   "OLON SKEWED LEFTjBLINEAR COLON SKEWED RIGHThCONTRACTIONhHARKLEAN OBELUSqMETOBELUSqASTERISCUS@",
   "1807hABBREVIATION MARKhLETTER ALAPHoSUPERSCRIPT ALAPHoBETHoGAMALt GARSHUNIoDALATHpOTLESS DALA",
   "TH RISHoHEoWAWoZAINoHETHoTETHs GARSHUNIoYUDHs HEoKAPHoLAMADHoMIMoNUNoSEMKATHoFINAL SEMKATHoEo",
   "PEoREVERSED PEoSADHEoQAPHoRISHoSHINoTAWoPERSIAN BHETHwGHAMALwDHALATHhPTHAHA ABOVEoBELOWoDOTTE",
   "DhZQAPHA ABOVEoBELOWoDOTTEDhRBASA ABOVEnBELOWhDOTTED ZLAMA HORIZONTALuANGULARhHBASA ABOVEnBEL",
   "OWm-ESASA DOTTEDhESASA ABOVEnBELOWhRWAHAhFEMININE DOThQUSHSHAYAhRUKKAKHAhTWO VERTICAL DOTS AB",
   "OVEzBELOWiHREE DOTS ABOVEsBELOWhOBLIQUE LINE ABOVEuBELOWhMUSIChBARREKH@1869hLETTER SOGDIAN ZH",
   "AINwKHAPHwFEaARABIC LETTER BEH WITH THREE DOTS HORIZONTALLY BELOWxDOT BELOW AND THREE DOTS AB",
   "OVExTHREE DOTS POINTING UPWARDS BELOWce AND TWO DOTS ABOVEyWO DOTS BELOW AND DOT ABOVExINVERT",
   "ED SMALL V BELOWxSMALL VoHAH WITH TWO DOTS ABOVEyHREE DOTS POINTING UPWARDS BELOWoDAL WITH TW",
   "O DOTS VERTICALLY BELOW AND SMALL TAHxINVERTED SMALL V BELOWoREH WITH STROKEoSEEN WITH FOUR D",
   "OTS ABOVEoAIN WITH TWO DOTS ABOVEyHREE DOTS POINTING DOWNWARDS ABOVEyWO DOTS VERTICALLY ABOVE",
   "oFEH WITH TWO DOTS BELOWyHREE DOTS POINTING UPWARDS BELOWoKEHEH WITH DOT ABOVEzTHREE DOTS ABO",
   "VEbkPOINTING UPWARDS BELOWoMEEM WITH DOT ABOVEbcBELOWoNOON WITH TWO DOTS BELOWySMALL TAHbeVoL",
   "AM WITH BARoREH WITH TWO DOTS VERTICALLY ABOVExHAMZA ABOVEoSEEN WITH TWO DOTS VERTICALLY ABOV",
   "EoHAH WITH SMALL ARABIC LETTER TAH BELOWbvAND TWO DOTSoSEEN WITH SMALL ARABIC LETTER TAH AND ",
   "TWO DOTSoREH WITH SMALL ARABIC LETTER TAH AND TWO DOTSoHAH WITH SMALL ARABIC LETTER TAH ABOVE",
   "oALEF WITH EXTENDED ARABIC-INDIC DIGIT TWO ABOVEcbHREE ABOVEoFARSI YEH WITH EXTENDED ARABIC-I",
   "NDIC DIGIT TWO ABOVEcgHREE ABOVEcfFOUR BELOWoWAW WITH EXTENDED ARABIC-INDIC DIGIT TWO ABOVEca",
   "HREE ABOVEoYEH BARREE WITH EXTENDED ARABIC-INDIC DIGIT TWO ABOVEchHREE ABOVEoHAH WITH EXTENDE",
   "D ARABIC-INDIC DIGIT FOUR BELOWoSEEN WITH EXTENDED ARABIC-INDIC DIGIT FOUR ABOVEyINVERTED VoK",
   "AF WITH TWO DOTS ABOVEaTHAANA LETTER HAAoSHAVIYANIoNOONUoRAAoBAAoLHAVIYANIoKAAFUoALIFUoVAAVUo",
   "MEEMUoFAAFUoDHAALUoTHAAoLAAMUoGAAFUpNAVIYANIoSEENUoDAVIYANIoZAVIYANIoTAVIYANIoYAAoPAVIYANIoJA",
   "VIYANIoCHAVIYANIoTTAAoHHAAoKHAAoTHAALUoZAAoSHEENUpAADHUoDAADHUoTOoZOoAINUoGHAINUoQAAFUoWAAVUh",
   "ABAFILIiABAAFILIhIBIFILIhEEBEEFILIhUBUFILIhOOBOOFILIhEBEFILIiYBEYFILIhOBOFILIiABOAFILIhSUKUNh",
   "LETTER NAA@1984aNKO DIGIT ZEROkONEkTWOlHREEkFOURlIVEkSIXlEVENkEIGHTkNINEeLETTER AlEElIlElUlOO",
   "lOlDAGBASINNAlNlBAlPAlTAlJAlCHAlDAlRAmRAlSAlGBAlFAlKAlLAlNA WOLOSOlMAlNYAmAlHAlWAlYAlNYA WOLO",
   "SOlJONA JAqCHAqRAeCOMBINING SHORT HIGH TONEuLOW TONEuRISING TONEoLONG DESCENDING TONEtHIGH TO",
   "NEtLOW TONEtRISING TONEoNASALIZATION MARKoDOUBLE DOT ABOVEeHIGH TONE APOSTROPHEeLOW TONE APOS",
   "TROPHEeSYMBOL OO DENNENlGBAKURUNENeCOMMAeEXCLAMATION MARKeLAJANYALAN@2045eDANTAYALANfOROME SI",
   "GNeTAMAN SIGNaSAMARITAN LETTER ALAFrBITrGAMANrDALATrIYrBAArZENrITrTITrYUTrKAAFrLABATrMIMrNUNr",
   "SINGAATrINrFIrTSAADIYrQUFrRISHrSHANrTAAFkMARK INr-ALAFpOCCLUSIONpDAGESHlODIFIER LETTER EPENTH",
   "ETIC YUTlARK EPENTHETIC YUTkVOWEL SIGN LONG EvEvOVERLONG AAvLONG AAvAAvOVERLONG AvLONG AvAkMO",
   "DIFIER LETTER SHORT AkVOWEL SIGN SHORT AvLONG UvUkMODIFIER LETTER IkVOWEL SIGN LONG IvIvOvSUK",
   "UNkMARK NEQUDAA@2096kPUNCTUATION NEQUDAAwAFSAAQxNGEDwBAUwATMAAUwSHIYYAALAAkABBREVIATION MARKk",
   "PUNCTUATION MELODIC QITSAwZIQAAwQITSAwZAEFwTURUwARKAANUwSOF MASHFAATwANNAAU@2112aMANDAIC LETT",
   "ER HALQApABqGqDqHpUSHENNApAZpITpATTqKSAqKqLqMqNqSpINpAPqSZqQqRqSHqTpDUSHENNApKADpAINiAFFRICAT",
   "ION MARKiVOCALIZATION MARKiGEMINATION MARK@2142iPUNCTUATION@2144aSYRIAC LETTER MALAYALAM NGAy",
   "JAyNYAyTTAyNNAbaNAyBHAyRAyLLAbaLAySSA@2160aARABIC LETTER ALEF WITH ATTACHED FATHAbhTOP RIGHT ",
   "FATHAyRIGHT MIDDLE STROKEyLEFT MIDDLE STROKEyATTACHED KASRAbhBOTTOM RIGHT KASRAbhROUND DOT AB",
   "OVEbiIGHT ROUND DOTbhLEFT ROUND DOTbhROUND DOT BELOWyDOT ABOVEyATTACHED TOP RIGHT FATHA AND D",
   "OT ABOVEyRIGHT MIDDLE STROKE AND DOT ABOVEyATTACHED BOTTOM RIGHT KASRA AND DOT ABOVEbhTOP RIG",
   "HT FATHA AND LEFT RINGyRIGHT MIDDLE STROKE AND LEFT RINGyATTACHED BOTTOM RIGHT KASRA AND LEFT",
   " RINGbhRIGHT HAMZAbhLEFT HAMZAhTATWEEL WITH OVERSTRUCK HAMZAbfWAWuTWO DOTS BELOWhLETTER THIN ",
   "YEHhBASELINE ROUND DOThRAISED ROUND DOThLETTER NOON WITH INVERTED SMALL VoHAH WITH INVERTED S",
   "MALL V BELOWoTAH WITH DOT BELOWxTHREE DOTS BELOWoKEHEH WITH TWO DOTS VERTICALLY BELOWhVERTICA",
   "L TAIL@2192hPOUND MARK ABOVEiIASTRE MARK ABOVE@2200hSMALL HIGH WORD AL-JUZnLOW WORD ISHMAAMxM",
   "AALAwTASHEELhMADDA WAAJIBhSUPERSCRIPT ALEF MOKHASSAShDOUBLED MADDAhHALF MADDA OVER MADDAhLETT",
   "ER BEH WITH SMALL V BELOWxHAMZA ABOVEoJEEM WITH TWO DOTS ABOVEoTAH WITH TWO DOTS ABOVEoFEH WI",
   "TH DOT BELOW AND THREE DOTS ABOVEoQAF WITH DOT BELOWoLAM WITH DOUBLE BARoMEEM WITH THREE DOTS",
   " ABOVEoYEH WITH TWO DOTS BELOW AND HAMZA ABOVEbqDOT ABOVEoREH WITH LOOPoWAW WITH DOT WITHINoR",
   "OHINGYA YEHoLOW ALEFoDAL WITH THREE DOTS BELOWoSAD WITH THREE DOTS BELOWoGAF WITH INVERTED ST",
   "ROKEoSTRAIGHT WAWoZAIN WITH INVERTED V ABOVEoAIN WITH THREE DOTS BELOWoKAF WITH DOT BELOWoQAF",
   " WITH DOT BELOW AND NO DOTS ABOVEoBEH WITH SMALL MEEM ABOVEoPEH WITH SMALL MEEM ABOVEoTEH WIT",
   "H SMALL TEH ABOVEoREH WITH SMALL NOON ABOVEoYEH WITH TWO DOTS BELOW AND SMALL NOON ABOVEoAFRI",
   "CAN FEHwQAFwNOONoPEH WITH SMALL VoTEH WITH SMALL VpTEH WITH SMALL VpCHEH WITH SMALL VoKEHEH W",
   "ITH SMALL VoGHAIN WITH THREE DOTS ABOVEoAFRICAN QAF WITH THREE DOTS ABOVEoJEEM WITH THREE DOT",
   "S ABOVEbjBELOWoLAM WITH SMALL ARABIC LETTER TAH ABOVEoGRAFhSMALL FARSI YEHnHIGH FARSI YEHsYEH",
   " BARREE WITH TWO DOTS BELOWsWORD SAHsZAHhLARGE ROUND DOT ABOVExBELOWhSUKUN BELOWhLARGE CIRCLE",
   " BELOWnROUND DOT INSIDE CIRCLE BELOWhSMALL LOW WAWnHIGH WORD AR-RUBsSADsAINsQAFsNOON WITH KAS",
   "RAnLOW NOON WITH KASRAnHIGH WORD ATH-THALATHAyS-SAJDAyN-NISFxSAKTAxQIFxWAQFAsFOOTNOTE MARKERs",
   "SIGN SAFHAhDISPUTED END OF AYAHhTURNED DAMMA BELOWhCURLY FATHAnDAMMAnKASRAnFATHATANnDAMMATANn",
   "KASRATANhTONE ONE DOT ABOVEmTWO DOTS ABOVEmLOOP ABOVEmONE DOT BELOWmTWO DOTS BELOWmLOOP BELOW",
   "hOPEN FATHATANmDAMMATANmKASRATANhSMALL HIGH WAWhFATHA WITH RINGsDOT ABOVEhKASRA WITH DOT BELO",
   "WhLEFT ARROWHEAD ABOVEhRIGHT ARROWHEAD ABOVEhLEFT ARROWHEAD BELOWhRIGHT ARROWHEAD BELOWhDOUBL",
   "E RIGHT ARROWHEAD ABOVEbj WITH DOThRIGHT ARROWHEAD ABOVE WITH DOThDAMMA WITH DOThMARK SIDEWAY",
   "S NOON GHUNNAaDEVANAGARI SIGN INVERTED CANDRABINDUqCANDRABINDUqANUSVARAqVISARGAlLETTER SHORT ",
   "AsAtAsItIsUtUsVOCALIC RbaLsCANDRA EsSHORT EsEsAIsCANDRA OsSHORT OsOsAUsKAtHAsGAtHAsNGAsCAtHAs",
   "JAtHAsNYAsTTAuHAsDDAuHAsNNAsTAtHAsDAtHAsNAtNNAsPAtHAsBAtHAsMAsYAsRAtRAsLAtLAuLAsVAsSHAtSAtAsH",
   "AlVOWEL SIGN OExOElSIGN NUKTAqAVAGRAHAlVOWEL SIGN AAwIxIwUxUwVOCALIC RbfRwCANDRA EwSHORT EwEw",
   "AIwCANDRA OwSHORT OwOwAUlSIGN VIRAMAlVOWEL SIGN PRISHTHAMATRA EwAWlOMlSTRESS SIGN UDATTAxANUD",
   "ATTAlGRAVE ACCENTlACUTE ACCENTlVOWEL SIGN CANDRA LONG EwUExUElLETTER QAsKHHAsGHHAsZAsDDDHAsRH",
   "AsFAsYYAsVOCALIC RRbaLLlVOWEL SIGN VOCALIC LbfLlDANDAmOUBLE DANDAmIGIT ZEROrONErTWOsHREErFOUR",
   "sIVErSIXsEVENrEIGHTrNINElABBREVIATION SIGNlSIGN HIGH SPACING DOTlLETTER CANDRA AsOEtOEsAWsUEt",
   "UEsMARWARI DDAsZHAsHEAVY YAsGGAsJJAsGLOTTAL STOPsDDDAsBBAaBENGALI ANJIiSIGN CANDRABINDUnANUSV",
   "ARAnVISARGA@2437iLETTER AqApIqIpUqUpVOCALIC RxL@2447pEpAI@2451pOpAUpKAqHApGAqHApNGApCAqHApJAq",
   "HApNYApTTArHApDDArHApNNApTAqHApDAqHApNA@2474pPAqHApBAqHApMApYApRA@2482pLA@2486pSHAqSAqApHA@24",
   "92iSIGN NUKTAnAVAGRAHAiVOWEL SIGN AAtIuItUuUtVOCALIC RbcR@2503tEtAI@2507tOtAUiSIGN VIRAMAiLET",
   "TER KHANDA TA@2519iAU LENGTH MARK@2524iLETTER RRAqHA@2527pYYApVOCALIC RRxLLiVOWEL SIGN VOCALI",
   "C LbcL@2534iDIGIT ZEROoONEoTWOpHREEoFOURpIVEoSIXpEVENoEIGHToNINEiLETTER RA WITH MIDDLE DIAGON",
   "ALxLOWER DIAGONALiRUPEE MARKoSIGNiCURRENCY NUMERATOR ONEbbTWObcHREEbbFOURbbONE LESS THAN THE ",
   "DENOMINATORrDENOMINATOR SIXTEENiISSHARiGANDA MARKiLETTER VEDIC ANUSVARAiABBREVIATION SIGNiSAN",
   "DHI MARK@2561aGURMUKHI SIGN ADAK BINDIoBINDIoVISARGA@2565jLETTER ArAqIrIqUrU@2575qEEqAI@2579q",
   "OOqAUqKArHAqGArHAqNGAqCArHAqJArHAqNYAqTTAsHAqDDAsHAqNNAqTArHAqDArHAqNA@2602qPArHAqBArHAqMAqYA",
   "qRA@2610qLArLA@2613qVAqSHA@2616rAqHA@2620jSIGN NUKTA@2622jVOWEL SIGN AAuIvIuUvU@2631uEEuAI@26",
   "35uOOuAUjSIGN VIRAMA@2641oUDAAT@2649jLETTER KHHAqGHHAqZAqRRA@2654qFA@2662jDIGIT ZEROpONEpTWOq",
   "HREEpFOURqIVEpSIXqEVENpEIGHTpNINEjTIPPIjADDAKjIRIjURAjEK ONKARjSIGN YAKASHjABBREVIATION SIGN@",
   "2689cJARATI SIGN CANDRABINDUoANUSVARAoVISARGA@2693jLETTER ArAqIrIqUrUqVOCALIC RyLjVOWEL CANDR",
   "A E@2703jLETTER EqAIjVOWEL CANDRA O@2707jLETTER OqAUqKArHAqGArHAqNGAqCArHAqJArHAqNYAqTTAsHAqD",
   "DAsHAqNNAqTArHAqDArHAqNA@2730qPArHAqBArHAqMAqYAqRA@2738qLArLA@2741qVAqSHArSArAqHA@2748jSIGN N",
   "UKTAoAVAGRAHAjVOWEL SIGN AAuIvIuUvUuVOCALIC RbdRuCANDRA E@2759uEuAIuCANDRA O@2763uOuAUjSIGN V",
   "IRAMA@2768jOM@2784jLETTER VOCALIC RRyLLjVOWEL SIGN VOCALIC LbdL@2790jDIGIT ZEROpONEpTWOqHREEp",
   "FOURqIVEpSIXqEVENpEIGHTpNINEjABBREVIATION SIGNjRUPEE SIGN@2809jLETTER ZHAjSIGN SUKUNpHADDAoMA",
   "DDAHoTHREE-DOT NUKTA ABOVEoCIRCLE NUKTA ABOVEoTWO-CIRCLE NUKTA ABOVE@2817aORIYA SIGN CANDRABI",
   "NDUlANUSVARAlVISARGA@2821gLETTER AoAnIoInUoUnVOCALIC RvL@2831nEnAI@2835nOnAUnKAoHAnGAoHAnNGAn",
   "CAoHAnJAoHAnNYAnTTApHAnDDApHAnNNAnTAoHAnDAoHAnNA@2858nPAoHAnBAoHAnMAnYAnRA@2866nLAoLA@2869nVA",
   "nSHAoSAoAnHA@2876gSIGN NUKTAlAVAGRAHAgVOWEL SIGN AArIsIrUsUrVOCALIC RbaR@2887rErAI@2891rOrAUg",
   "SIGN VIRAMA@2901lOVERLINEgAI LENGTH MARKhU LENGTH MARK@2908gLETTER RRAoHA@2911nYYAnVOCALIC RR",
   "vLLgVOWEL SIGN VOCALIC LbaL@2918gDIGIT ZEROmONEmTWOnHREEmFOURnIVEmSIXnEVENmEIGHTmNINEgISSHARg",
   "LETTER WAgFRACTION ONE QUARTERtHALFpTHREE QUARTERSpONE SIXTEENTHtEIGHTHpTHREE SIXTEENTHS@2946",
   "aTAMIL SIGN ANUSVARAlVISARGA@2949gLETTER AoAnIoInUoU@2958nEoEnAI@2962nOoOnAUnKA@2969nNGAnCA@2",
   "972nJA@2974nNYAnTTA@2979nNNAnTA@2984nNAoNNAnPA@2990nMAnYAnRAoRAnLAoLApLAnVAnSHAoSAoAnHA@3006g",
   "VOWEL SIGN AArIsIrUsU@3014rEsErAI@3018rOsOrAUgSIGN VIRAMA@3024gOM@3031gAU LENGTH MARK@3046gDI",
   "GIT ZEROmONEmTWOnHREEmFOURnIVEmSIXnEVENmEIGHTmNINEgNUMBER TENnONE HUNDREDrTHOUSANDgDAY SIGNgM",
   "ONTH SIGNgYEAR SIGNgDEBIT SIGNgCREDIT SIGNgAS ABOVE SIGNgRUPEE SIGNgNUMBER SIGN@3072bELUGU SI",
   "GN COMBINING CANDRABINDU ABOVEnANDRABINDUmANUSVARAmVISARGAmCOMBINING ANUSVARA ABOVEhLETTER Ap",
   "AoIpIoUpUoVOCALIC RwL@3086oEpEoAI@3090oOpOoAUoKApHAoGApHAoNGAoCApHAoJApHAoNYAoTTAqHAoDDAqHAoN",
   "NAoTApHAoDApHAoNA@3114oPApHAoBApHAoMAoYAoRApRAoLApLAqLAoVAoSHApSApAoHA@3132hSIGN NUKTAmAVAGRA",
   "HAhVOWEL SIGN AAsItIsUtUsVOCALIC RbbR@3142sEtEsAI@3146sOtOsAUhSIGN VIRAMA@3157hLENGTH MARKhAI",
   " LENGTH MARK@3160hLETTER TSAoDZAoRRRA@3165oNAKAARA POLLU@3168oVOCALIC RRwLLhVOWEL SIGN VOCALI",
   "C LbbL@3174hDIGIT ZEROnONEnTWOoHREEnFOURoIVEnSIXoEVENnEIGHTnNINE@3191hSIGN SIDDHAMhFRACTION D",
   "IGIT ZERO FOR ODD POWERS OF FOURwONE FOR ODD POWERS OF FOURwTWO FOR ODD POWERS OF FOURxHREE F",
   "OR ODD POWERS OF FOURwONE FOR EVEN POWERS OF FOURwTWO FOR EVEN POWERS OF FOURxHREE FOR EVEN P",
   "OWERS OF FOURhSIGN TUUMUaKANNADA SIGN SPACING CANDRABINDUnCANDRABINDUnANUSVARAnVISARGAnSIDDHA",
   "MiLETTER AqApIqIpUqUpVOCALIC RxL@3214pEqEpAI@3218pOqOpAUpKAqHApGAqHApNGApCAqHApJAqHApNYApTTAr",
   "HApDDArHApNNApTAqHApDAqHApNA@3242pPAqHApBAqHApMApYApRAqRApLAqLA@3253pVApSHAqSAqApHA@3260iSIGN",
   " NUKTAnAVAGRAHAiVOWEL SIGN AAtIuItUuUtVOCALIC RbcR@3270tEuEtAI@3274tOuOtAUiSIGN VIRAMA@3285iL",
   "ENGTH MARKiAI LENGTH MARK@3293iLETTER NAKAARA POLLUpFA@3296pVOCALIC RRxLLiVOWEL SIGN VOCALIC ",
   "LbcL@3302iDIGIT ZEROoONEoTWOpHREEoFOURpIVEoSIXpEVENoEIGHToNINE@3313iSIGN JIHVAMULIYAnUPADHMAN",
   "IYA@3328aMALAYALAM SIGN COMBINING ANUSVARA ABOVEqANDRABINDUpANUSVARApVISARGAkLETTER VEDIC ANU",
   "SVARArAsArIsIrUsUrVOCALIC RzL@3342rEsErAI@3346rOsOrAUrKAsHArGAsHArNGArCAsHArJAsHArNYArTTAtHAr",
   "DDAtHArNNArTAsHArDAsHArNAsNNArPAsHArBAsHArMArYArRAsRArLAsLAtLArVArSHAsSAsArHArTTTAkSIGN VERTI",
   "CAL BAR VIRAMApCIRCULAR VIRAMApAVAGRAHAkVOWEL SIGN AAvIwIvUwUvVOCALIC RbeR@3398vEwEvAI@3402vO",
   "wOvAUkSIGN VIRAMAkLETTER DOT REPHkSIGN PARA@3412kLETTER CHILLU MyYyLLLkAU LENGTH MARKkFRACTIO",
   "N ONE ONE-HUNDRED-AND-SIXTIETHxFORTIETHtTHREE EIGHTIETHStONE TWENTIETHyENTHtTHREE TWENTIETHSt",
   "ONE FIFTHkLETTER ARCHAIC IIrVOCALIC RRzLLkVOWEL SIGN VOCALIC LbeL@3430kDIGIT ZEROqONEqTWOrHRE",
   "EqFOURrIVEqSIXrEVENqEIGHTqNINEkNUMBER TENrONE HUNDREDvTHOUSANDkFRACTION ONE QUARTERxHALFtTHRE",
   "E QUARTERStONE SIXTEENTHxEIGHTHtTHREE SIXTEENTHSkDATE MARKkLETTER CHILLU NNyNyRRyLzLyK@3457aS",
   "INHALA SIGN CANDRABINDUnANUSVARAYAnVISARGAYA@3461iLETTER AYANNAqAYANNAqEYANNArEYANNApIYANNAqI",
   "YANNApUYANNAqUYANNApIRUYANNAsUYANNAqLUYANNAsUYANNApEYANNAqEYANNApAIYANNApOYANNAqOYANNApAUYANN",
   "A@3482qLPAPRAANA KAYANNApMAHAAPRAANA KAYANNApALPAPRAANA GAYANNApMAHAAPRAANA GAYANNApKANTAJA N",
   "AASIKYAYApSANYAKA GAYANNApALPAPRAANA CAYANNApMAHAAPRAANA CAYANNApALPAPRAANA JAYANNApMAHAAPRAA",
   "NA JAYANNApTAALUJA NAASIKYAYAxSANYOOGA NAAKSIKYAYApSANYAKA JAYANNApALPAPRAANA TTAYANNApMAHAAP",
   "RAANA TTAYANNApALPAPRAANA DDAYANNApMAHAAPRAANA DDAYANNAqUURDHAJA NAYANNApSANYAKA DDAYANNApALP",
   "APRAANA TAYANNApMAHAAPRAANA TAYANNApALPAPRAANA DAYANNApMAHAAPRAANA DAYANNApDANTAJA NAYANNA@35",
   "07pSANYAKA DAYANNApALPAPRAANA PAYANNApMAHAAPRAANA PAYANNApALPAPRAANA BAYANNApMAHAAPRAANA BAYA",
   "NNArYANNApAMBA BAYANNApYAYANNApRAYANNA@3517pDANTAJA LAYANNA@3520pVAYANNApTAALUJA SAYANNApMUUR",
   "DHAJA SAYANNApDANTAJA SAYANNApHAYANNApMUURDHAJA LAYANNApFAYANNA@3530iSIGN AL-LAKUNA@3535iVOWE",
   "L SIGN AELA-PILLAtKETTI AEDA-PILLAtDIGA AEDA-PILLAtKETTI IS-PILLAtDIGA IS-PILLAtKETTI PAA-PIL",
   "LA@3542tDIGA PAA-PILLA@3544tGAETTA-PILLAtKOMBUVAtDIGA KOMBUVAtKOMBU DEKAyVA HAA AELA-PILLAbfD",
   "IGA AELA-PILLAbfGAYANUKITTAtGAYANUKITTA@3558iLITH DIGIT ZEROtONEtTWOuHREEtFOURuIVEtSIXuEVENtE",
   "IGHTtNINE@3570iVOWEL SIGN DIGA GAETTA-PILLAbaYANUKITTAiPUNCTUATION KUNDDALIYA@3585aTHAI CHARA",
   "CTER KO KAIqHO KHAIvUATvWAIvONtRAKHANGpNGO NGUpCHO CHANvINGvANGpSO SOpCHO CHOEpYO YINGpDO CHA",
   "DApTO PATAKqHO THANtNANGMONTHOtPHUTHAOpNO NENpDO DEKpTO TAOqHO THUNGvAHANvONGpNO NUpBO BAIMAI",
   "pPO PLAqHO PHUNGpFO FApPHO PHANpFO FANpPHO SAMPHAOpMO MApYO YAKpRO RUAqUpLO LINGqUpWO WAENpSO",
   " SALAsRUSIsSUApHO HIPpLO CHULApO ANGpHO NOKHUKpPAIYANNOIpSARA ApMAI HAN-AKATpSARA AAvMuIvIuUE",
   "wEuUvUpPHINTHU@3647gURRENCY SYMBOL BAHTgHARACTER SARA EuAEuOuAI MAIMUANbbALAIpLAKKHANGYAOpMAI",
   "YAMOKsTAIKHUs EKtTHOuRItCHATTAWApTHANTHAKHATpNIKHAHITpYAMAKKANpFONGMANfDIGIT ZEROlONElTWOmHRE",
   "ElFOURmIVElSIXmEVENlEIGHTlNINEfCHARACTER ANGKHANKHUpKHOMUT@3713aLAO LETTER KOmHO SUNG@3716pTA",
   "M@3718lPALI GHAlNGOlCOlPALI CHAlSO TAM@3724lPALI JHAlNYOlPALI NYAqTTAsHAqDDAsHAqNNAlDOlTOmHO ",
   "SUNGpTAMlPALI DHAlNOlBOlPOmHO SUNGlFO TAMlPHO TAMlFO SUNGlPALI BHAlMOlYOlLO LING@3749pOOT@375",
   "1lWOlSANSKRIT SHAvSAmO SUNGlHO SUNGlPALI LLAlOlHO TAMeELLIPSISeVOWEL SIGN ApMAI KANpAAqMpIqIp",
   "YqYpUqUeSIGN PALI VIRAMAeVOWEL SIGN MAI KONeSEMIVOWEL SIGN LOtNYO@3776eVOWEL SIGN EqIpOpAYqI@",
   "3782eKO LA@3784eTONE MAI EKnTHOoInCATAWAeCANCELLATION MARKeNIGGAHITA@3792eDIGIT ZEROkONEkTWOl",
   "HREEkFOURlIVEkSIXlEVENkEIGHTkNINE@3804eHO NOhMOeLETTER KHMU GOqNYO@3840aTIBETAN SYLLABLE OMiM",
   "ARK GTER YIG MGO TRUNCATED Aba-UM RNAM BCAD MAbeGTER TSHEG MAnINITIAL YIG MGO MDUN MAnCLOSING",
   " YIG MGO SGAB MAoARET YIG MGO PHUR SHAD MAnYIG MGO TSHEG SHAD MAnSBRUL SHADnBSKUR YIG MGOoKA-",
   " SHOG YIG MGOnINTERSYLLABIC TSHEGnDELIMITER TSHEG BSTARnSHADnNYIS SHADnTSHEG SHADnNYIS TSHEG ",
   "SHADnRIN CHEN SPUNGS SHADoGYA GRAM SHADnCARET -DZUD RTAGS ME LONG CANnGTER TSHEGiLOGOTYPE SIG",
   "N CHAD RTAGSwLHAG RTAGSiASTROLOGICAL SIGN SGRA GCAN -CHAR RTAGSba-KHYUD PAbaSDONG TSHUGSiSIGN",
   " RDEL DKAR GCIGyNYISySUMsNAG GCIGxNYISsDKAR RDEL NAGiDIGIT ZEROoONEoTWOpHREEoFOURpIVEoSIXpEVE",
   "NoEIGHToNINEoHALF ONEtTWOuHREEtFOURuIVEtSIXuEVENtEIGHTtNINEtZEROiMARK BSDUS RTAGSnNGAS BZUNG ",
   "NYI ZLAnCARET -DZUD RTAGS BZHI MIG CANnNGAS BZUNG SGOR RTAGSnCHE MGOnTSA -PHRUnGUG RTAGS GYON",
   "zASnANG KHANG GYONzASiSIGN YAR TSHESnMAR TSHESiLETTER KAqHApGAqHApNGApCAqHApJA@3913pNYApTTArH",
   "ApDDArHApNNApTAqHApDAqHApNApPAqHApBAqHApMApTSArHApDZArHApWApZHAqAp-ApYApRApLApSHAqSAqApHApApK",
   "SSApFIXED-FORM RApKKApRRA@3953iVOWEL SIGN AAtIuItUuUtVOCALIC RbcRbbLbcLtEuEtOuOiSIGN RJES SU ",
   "NGA ROoNAM BCADiVOWEL SIGN REVERSED IbdIiSIGN NYI ZLA NAA DAnSNA LDANiMARK HALANTAnPALUTAiSIG",
   "N LCI RTAGSnYANG RTAGSnLCE TSA CANnMCHU CANnGRU CAN RGYINGSrMED RGYINGSnINVERTED MCHU CANjUBJ",
   "OINED SIGN LCE TSA CANxMCHU CANxINVERTED MCHU CANsLETTER KAbaHAzGAbaHAzNGAzCAbaHAzJA@3993zNYA",
   "zTTAbbHAzDDAbbHAzNNAzTAbaHAzDAbaHAzNAzPAbaHAzBAbaHAzMAzTSAbbHAzDZAbbHAzWAzZHAbaAz-AzYAzRAzLAz",
   "SHAbaSAbaAzHAzAzKSSAzFIXED-FORM WAbkYAbkRA@4030iKU RU KHAr BZHI MIG CANiCANTILLATION SIGN HEA",
   "VY BEATbaLIGHT BEATbaCANG TE-UbaSBUB -CHALiSYMBOL DRIL BUpRDO RJEpPADMA GDANpRDO RJE RGYA GRA",
   "MpPHUR PApNOR BUv NYIS -KHYILwGSUM -KHYILwBZHI -KHYIL@4046jIGN RDEL NAG RDEL DKARwGSUMiMARK B",
   "SKA- SHOG GI MGO RGYANnMNYAM YIG GI MGO RGYANnNYIS TSHEGnINITIAL BRDA RNYING YIG MGO MDUN MAn",
   "CLOSING BRDA RNYING YIG MGO SGAB MAaRIGHT-FACING SVASTI SIGNaLEFT-FACING SVASTI SIGNaRIGHT-FA",
   "CING SVASTI SIGN WITH DOTSaLEFT-FACING SVASTI SIGN WITH DOTSaTIBETAN MARK LEADING MCHAN RTAGS",
   "nTRAILING MCHAN RTAGS@4096aMYANMAR LETTER KAqHApGAqHApNGApCAqHApJAqHApNYAqNYApTTArHApDDArHApN",
   "NApTAqHApDAqHApNApPAqHApBAqHApMApYApRApLApWApSApHApLLApApSHAN ApIqIpUqUpEpMON EpOpAUiVOWEL SI",
   "GN TALL AAtAAtIuItUuUtEtAItMON IIxOtE ABOVEiSIGN ANUSVARAnDOT BELOWnVISARGApRAMAnASATiCONSONA",
   "NT SIGN MEDIAL YAbeRAbeWAbeHAiLETTER GREAT SAiDIGIT ZEROoONEoTWOpHREEoFOURpIVEoSIXpEVENoEIGHT",
   "oNINEiSIGN LITTLE SECTIONnSECTIONjYMBOL LOCATIVEpCOMPLETEDpAFOREMENTIONEDpGENITIVEiLETTER SHA",
   "qSApVOCALIC RyRxLyLiVOWEL SIGN VOCALIC RbcRbbLbcLiLETTER MON NGAtJHAtBBAvEiCONSONANT SIGN MON",
   " MEDIAL NAbiMAbiLAiLETTER SGAW KAREN SHAiVOWEL SIGN SGAW KAREN EUiTONE MARK SGAW KAREN HATHIb",
   "dKE PHOiLETTER WESTERN PWO KAREN THAbhPWAiVOWEL SIGN WESTERN PWO KAREN EUblUEiSIGN WESTERN PW",
   "O KAREN TONE-1bk2bk3bk4bk5iLETTER EASTERN PWO KAREN NNAbhYWAbhGHWAiVOWEL SIGN GEBA KAREN ItKA",
   "YAH OEzUzEEiLETTER SHAN KAvHAuGAuCAuZAuNYAuDAuNAuPHAuFAuBAuTHAuHAiCONSONANT SIGN SHAN MEDIAL ",
   "WAiVOWEL SIGN SHAN AAyEz ABOVEyFINAL YiSIGN SHAN TONE-2x3x5x6sCOUNCIL TONE-2bf3baEMPHATIC TON",
   "EiLETTER RUMAI PALAUNG FAiSIGN RUMAI PALAUNG TONE-5jHAN DIGIT ZEROtONEtTWOuHREEtFOURuIVEtSIXu",
   "EVENtEIGHTtNINEjIGN KHAMTI TONE-1z3iVOWEL SIGN AITON AbaIiSYMBOL SHAN ONEuEXCLAMATIONaGEORGIA",
   "N CAPITAL LETTER ANyBANyGANyDONyENyVINyZENyTANyINyKANyLASyMANyNARyONyPARyZHARyRAEySANyTARyUNy",
   "PHARyKHARyGHANyQARySHINyCHINzANyJILyCILzHARyXANyJHANyHAEzEzIEyWEyHARzOE@4295yYN@4301yAEN@4304",
   "jLETTER ANqBANqGANqDONqENqVINqZENqTANqINqKANqLASqMANqNARqONqPARqZHARqRAEqSANqTARqUNqPHARqKHAR",
   "qGHANqQARqSHINqCHINrANqJILqCILrHARqXANqJHANqHAErErIEqWEqHARrOEqFIqYNqELIFIqTURNED GANqAINjPAR",
   "AGRAPH SEPARATORaMODIFIER LETTER GEORGIAN NARaGEORGIAN LETTER AENqHARD SIGNqLABIAL SIGNaHANGU",
   "L CHOSEONG KIYEOKqSSANGKIYEOKqNIEUNqTIKEUTqSSANGTIKEUTqRIEULqMIEUMqPIEUPqSSANGPIEUPrIOSrSANGS",
   "IOSqIEUNGqCIEUCqSSANGCIEUCqCHIEUCHqKHIEUKHqTHIEUTHqPHIEUPHqHIEUHqNIEUN-KIYEOKqSSANGNIEUNqNIEU",
   "N-TIKEUTwPIEUPqTIKEUT-KIYEOKqRIEUL-NIEUNqSSANGRIEULqRIEUL-HIEUHqKAPYEOUNRIEULqMIEUM-PIEUPqKAP",
   "YEOUNMIEUMqPIEUP-KIYEOKwNIEUNwTIKEUTwSIOSba-KIYEOKbbTIKEUTbbPIEUPxSANGSIOSxIOS-CIEUCwCIEUCxHI",
   "EUCHwTHIEUTHwPHIEUPHqKAPYEOUNPIEUPySSANGPIEUPqSIOS-KIYEOKvNIEUNvTIKEUTvRIEULvMIEUMvPIEUPba-KI",
   "YEOKvSSANGSIOSvIEUNGvCIEUCwHIEUCHvKHIEUKHvTHIEUTHvPHIEUPHvHIEUHqCHITUEUMSIOSzSANGSIOSrEONGCHI",
   "EUMSIOSbcSANGSIOSqPANSIOSqIEUNG-KIYEOKwTIKEUTwMIEUMwPIEUPwSIOSwPANSIOSqSSANGIEUNGqIEUNG-CIEUC",
   "xHIEUCHwTHIEUTHwPHIEUPHqYESIEUNGqCIEUC-IEUNGrHITUEUMCIEUCySSANGCIEUCrEONGCHIEUMCIEUCbbSSANGCI",
   "EUCrHIEUCH-KHIEUKHyHIEUHtTUEUMCHIEUCHrEONGCHIEUMCHIEUCHqPHIEUPH-PIEUPqKAPYEOUNPHIEUPHqSSANGHI",
   "EUHqYEORINHIEUHqKIYEOK-TIKEUTqNIEUN-SIOSwCIEUCwHIEUHqTIKEUT-RIEULqFILLERhJUNGSEONG FILLERrAsE",
   "rYAtErEOrErYEOsErOrWAtErOErYOrUrWEOsEsIrYUrEUrYIrIrA-OtUrYA-OuYOrEO-OuUuEUrYEO-OvUrO-EOtEtYEt",
   "OtUrYO-YAwEvEOuOuIrU-AuEtEO-EUtYEtUrYU-AuEOuEuYEOvEuUuIrEU-UuEUrYI-UrI-AtYAtOtUtEUtARAEArARAE",
   "Aw-EOxUxIrSSANGARAEArA-EUrYA-UsEO-YArO-YAvEiONGSEONG KIYEOKrSSANGKIYEOKrKIYEOK-SIOSrNIEUNw-CI",
   "EUCxHIEUHrTIKEUTrRIEULw-KIYEOKxMIEUMxPIEUPxSIOSxTHIEUTHxPHIEUPHxHIEUHrMIEUMrPIEUPw-SIOSrSIOSs",
   "SANGSIOSrIEUNGrCIEUCsHIEUCHrKHIEUKHrTHIEUTHrPHIEUPHrHIEUHrKIYEOK-RIEULySIOS-KIYEOKrNIEUN-KIYE",
   "OKxTIKEUTxSIOSxPANSIOSxTHIEUTHrTIKEUT-KIYEOKyRIEULrRIEUL-KIYEOK-SIOSxNIEUNxTIKEUTbd-HIEUHrSSA",
   "NGRIEULrRIEUL-MIEUM-KIYEOKbdSIOSxPIEUP-SIOSbdHIEUHxKAPYEOUNPIEUPxSSANGSIOSxPANSIOSxKHIEUKHxYE",
   "ORINHIEUHrMIEUM-KIYEOKxRIEULxPIEUPxSIOSySANGSIOSxPANSIOSxCHIEUCHxHIEUHrKAPYEOUNMIEUMrPIEUP-RI",
   "EULxPHIEUPHxHIEUHrKAPYEOUNPIEUPrSIOS-KIYEOKwTIKEUTwRIEULwPIEUPrPANSIOSrIEUNG-KIYEOKxSSANGKIYE",
   "OKrSSANGIEUNGrIEUNG-KHIEUKHrYESIEUNGz-SIOSbaPANSIOSrPHIEUPH-PIEUPrKAPYEOUNPHIEUPHrHIEUH-NIEUN",
   "xRIEULxMIEUMxPIEUPrYEORINHIEUHrKIYEOK-NIEUNyPIEUPyCHIEUCHyKHIEUKHyHIEUHrSSANGNIEUNaETHIOPIC S",
   "YLLABLE HAtUtItAAtEEtEtOuAsLAtUtItAAtEEtEtOtWAsHHAuUuIuAAuEEuEuOuWAsMAtUtItAAtEEtEtOtWAsSZAuU",
   "uIuAAuEEuEuOuWAsRAtUtItAAtEEtEtOtWAsSAtUtItAAtEEtEtOtWAtHAuUuIuAAuEEuEuOuWAsQAtUtItAAtEEtEtOu",
   "AtWA@4682uIuAAuEEuE@4688tHAuUuIuAAuEEuEuO@4696uWA@4698vIvAAvEEvE@4704sBAtUtItAAtEEtEtOtWAsVAt",
   "UtItAAtEEtEtOtWAsTAtUtItAAtEEtEtOtWAsCAtUtItAAtEEtEtOtWAsXAtUtItAAtEEtEtOuAtWA@4746uIuAAuEEuE",
   "@4752sNAtUtItAAtEEtEtOtWAtYAuUuIuAAuEEuEuOuWAsGLOTTAL AbaUbaIbaAAbaEEbaEbaObaWAsKAtUtItAAtEEt",
   "EtOuAtWA@4786uIuAAuEEuE@4792tXAuUuIuAAuEEuEuO@4800uWA@4802vIvAAvEEvE@4808sWAtUtItAAtEEtEtOuAs",
   "PHARYNGEAL AbdUbdIbdAAbdEEbdEbdO@4824sZAtUtItAAtEEtEtOtWAtHAuUuIuAAuEEuEuOuWAsYAtUtItAAtEEtEt",
   "OuAsDAtUtItAAtEEtEtOtWAtDAuUuIuAAuEEuEuOuWAsJAtUtItAAtEEtEtOtWAsGAtUtItAAtEEtEtOuAtWA@4882uIu",
   "AAuEEuE@4888tGAuUuIuAAuEEuEuOuWAAsTHAuUuIuAAuEEuEuOuWAsCHAuUuIuAAuEEuEuOuWAsPHAuUuIuAAuEEuEuO",
   "uWAsTSAuUuIuAAuEEuEuOuWAtZAuUuIuAAuEEuEuOvAsFAtUtItAAtEEtEtOtWAsPAtUtItAAtEEtEtOtWAsRYAsMYAsF",
   "YA@4957jCOMBINING GEMINATION AND VOWEL LENGTH MARKtVOWEL LENGTH MARKtGEMINATION MARKjSECTION ",
   "MARKjWORDSPACEjFULL STOPjCOMMAjSEMICOLONjCOLONjPREFACE COLONjQUESTION MARKjPARAGRAPH SEPARATO",
   "RjDIGIT ONEpTWOqHREEpFOURqIVEpSIXqEVENpEIGHTpNINEjNUMBER TENrWENTYrHIRTYqFORTYrIFTYqSIXTYrEVE",
   "NTYqEIGHTYqNINETYqHUNDREDqTEN THOUSAND@4992jSYLLABLE SEBATBEIT MWAsMWIuEEuEsSEBATBEIT BWAsBWI",
   "uEEuEsSEBATBEIT FWAsFWIuEEuEsSEBATBEIT PWAsPWIuEEuEjTONAL MARK YIZETuDERETuRIKRIKuSHORT RIKRI",
   "KuDIFATuKENATuCHIRETuHIDETuDERET-HIDETuKURT@5024aCHEROKEE LETTER AqEqIqOqUqVqGAqKAqGErIrOrUrV",
   "qHArErIrOrUrVqLArErIrOrUrVqMArErIrOrUqNAqHNAqNAHrErIrOrUrVqQUAsEsIsOsUsVqSAqSrErIrOrUrVqDAqTA",
   "qDEqTEqDIqTIqDOrUrVrLAqTLAsEsIsOsUsVrSAsEsIsOsUsVqWArErIrOrUrVqYArErIrOrUrVqMV@5112jSMALL LET",
   "TER YExIxOxUxVwMV@5120bANADIAN SYLLABICS HYPHENtEtAAItIuItOuOtY-CREE OOtCARRIER EEbbItAuAtWEv",
   "ST-CREE WEuIuEST-CREE WIuIIuEST-CREE WIIuOuEST-CREE WOuOOuEST-CREE WOOtNASKAPI WOOtWAuEST-CRE",
   "E WAuAAuEST-CREE WAAtNASKAPI WAAtAItY-CREE WtGLOTTAL STOPtFINAL ACUTEzGRAVEzBOTTOM HALF RINGz",
   "TOP HALF RINGzRIGHT HALF RINGbbNGzDOUBLE ACUTEbgSHORT VERTICAL STROKESzMIDDLE DOTzSHORT HORIZ",
   "ONTAL STROKEzPLUSzDOWN TACKtENtINtONtANtPEuAAIuIvIuOvOtY-CREE POOtCARRIER HEEbcItPAvAuWEtWEST",
   "-CREE PWEtPWItWEST-CREE PWItPWIItWEST-CREE PWIItPWOtWEST-CREE PWOtPWOOtWEST-CREE PWOOtPWAtWES",
   "T-CREE PWAtPWAAtWEST-CREE PWAAtY-CREE PWAAtPtWEST-CREE PtCARRIER HtTEuAAIuIvIuOvOtY-CREE TOOt",
   "CARRIER DEEbcItTAvAuWEtWEST-CREE TWEtTWItWEST-CREE TWItTWIItWEST-CREE TWIItTWOtWEST-CREE TWOt",
   "TWOOtWEST-CREE TWOOtTWAtWEST-CREE TWAtTWAAtWEST-CREE TWAAtNASKAPI TWAAtTuTEvIvOvAtKEuAAIuIvIu",
   "OvOtY-CREE KOOtKAvAuWEtWEST-CREE KWEtKWItWEST-CREE KWItKWIItWEST-CREE KWIItKWOtWEST-CREE KWOt",
   "KWOOtWEST-CREE KWOOtKWAtWEST-CREE KWAtKWAAtWEST-CREE KWAAtNASKAPI KWAAtKuWtSOUTH-SLAVEY KEHbh",
   "IHbhOHbhAHtCEuAAIuIvIuOvOtY-CREE COOtCAvAuWEtWEST-CREE CWEtCWItWEST-CREE CWItCWIItWEST-CREE C",
   "WIItCWOtWEST-CREE CWOtCWOOtWEST-CREE CWOOtCWAtWEST-CREE CWAtCWAAtWEST-CREE CWAAtNASKAPI CWAAt",
   "CtSAYISI THtMEuAAIuIvIuOvOtY-CREE MOOtMAvAuWEtWEST-CREE MWEtMWItWEST-CREE MWItMWIItWEST-CREE ",
   "MWIItMWOtWEST-CREE MWOtMWOOtWEST-CREE MWOOtMWAtWEST-CREE MWAtMWAAtWEST-CREE MWAAtNASKAPI MWAA",
   "tMtWEST-CREE MtMHtATHAPASCAN MtSAYISI MtNEuAAIuIvIuOvOtY-CREE NOOtNAvAuWEtWEST-CREE NWEtNWAtW",
   "EST-CREE NWAtNWAAtWEST-CREE NWAAtNASKAPI NWAAtNtCARRIER NGtNHtLEuAAIuIvIuOvOtY-CREE LOOtLAvAu",
   "WEtWEST-CREE LWEtLWItWEST-CREE LWItLWIItWEST-CREE LWIItLWOtWEST-CREE LWOtLWOOtWEST-CREE LWOOt",
   "LWAtWEST-CREE LWAtLWAAtWEST-CREE LWAAtLtWEST-CREE LtMEDIAL LtSEuAAIuIvIuOvOtY-CREE SOOtSAvAuW",
   "EtWEST-CREE SWEtSWItWEST-CREE SWItSWIItWEST-CREE SWIItSWOtWEST-CREE SWOtSWOOtWEST-CREE SWOOtS",
   "WAtWEST-CREE SWAtSWAAtWEST-CREE SWAAtNASKAPI SWAAtStATHAPASCAN StSWtBLACKFOOT StMOOSE-CREE SK",
   "tNASKAPI SKWbc-WbcPWAbcTWAbcKWAbcCWAtSHEvIwIvOwOvAwAvWEtWEST-CREE SHWEtSHWItWEST-CREE SHWItSH",
   "WIItWEST-CREE SHWIItSHWOtWEST-CREE SHWOtSHWOOtWEST-CREE SHWOOtSHWAtWEST-CREE SHWAtSHWAAtWEST-",
   "CREE SHWAAtSHtYEuAAIuIvIuOvOu-CREE YOOuAvAuWEtWEST-CREE YWEtYWItWEST-CREE YWItYWIItWEST-CREE ",
   "YWIItYWOtWEST-CREE YWOtYWOOtWEST-CREE YWOOtYWAtWEST-CREE YWAtYWAAtWEST-CREE YWAAtNASKAPI YWAA",
   "tYtBIBLE-CREE YtWEST-CREE YtSAYISI YItREu-CREE REtWEST-CREE LEtRAAIuIvIuOvOtWEST-CREE LOtRAvA",
   "tWEST-CREE LAtRWAAtWEST-CREE RWAAtRtWEST-CREE RtMEDIAL RtFEuAAIuIvIuOvOuAvAuWAAtWEST-CREE FWA",
   "AtFtTHEtN-CREE THEtTHItN-CREE THItTHIItN-CREE THIItTHOwOvAwAvWAAtWEST-CREE THWAAtTHuTHEwIwOwA",
   "vHuYEvIvOvAtNUNAVIK HEbcIbdIbcObdObcAbdAbbHyUT HtHKtQAAIuIvIuOvOuAvAtQtTLHEwIwOwAtWEST-CREE R",
   "EbeIbeObeAtNGAAIvIwIvOwOvAwAuGuNGtSAYISI SHEbcIbcObcAtWOODS-CREE THEbgIbgObgAbfHtLHIwIvOwOvAw",
   "AuHtTH-CREE THEbdIbeIbdObeObdAbeAbcHtAIVILIK BtBLACKFOOT EbdIbdObdAbdWEbeIbeObeAbdNEbeIbeObeA",
   "bdKEbeIbeObeAtSAYISI HEbbIbbObbAtCARRIER GHUbdObdEbeEbdIbdAbbRUbcObcEbdEbcIbcAbbWUbcObcEbdEbc",
   "IbcAbbHWUbdObdEbeEbdIbdAbbTHUbdObdEbeEbdIbdAbcTUbdObdEbeEbdIbdAbbPUbcObcEbdEbcIbcAbbPbbGUbcOb",
   "cEbdEbcIbcAbbKHUbdObdEbeEbdIbdAbcKUbdObdEbeEbdIbdAbcKbbNUbcObcEbdEbcIbcAbbMUbcObcEbdEbcIbcAbb",
   "YUbcObcEbdEbcIbcAbbJUtSAYISI JUtCARRIER JObcEbdEbcItSAYISI JItCARRIER JAbcJUbdObdEbeEbdIbdAbb",
   "LUbcObcEbdEbcIbcAbbDLUbdObdEbeEbdIbdAbbLHUbdObdEbeEbdIbdAbbTLHUbeObeEbfEbeIbeAbdUbdObdEbeEbdI",
   "bdAbbZUbcObcEbdEbcIbcAbbZbbINITIAL ZbbDZUbdObdEbeEbdIbdAbbSUbcObcEbdEbcIbcAbcHUbdObdEbeEbdIbd",
   "AbcHbbTSUbdObdEbeEbdIbdAbbCHUbdObdEbeEbdIbdAbbTTSUbeObeEbfEbeIbeAuHI SIGNtFULL STOPtQAItNGAIu",
   "NGIxIwOxOwAxAtWOODS-CREE THWEEbhIbiIbhObiObhAbiAbeFINAL THtBLACKFOOT WaOGHAM SPACE MARKgLETTE",
   "R BEITHnLUISnFEARNnSAILnNIONnUATHnDAIRnTINNEnCOLLoEIRTnMUINnGORTnNGEADALnSTRAIFnRUISnAILMnONN",
   "nURnEADHADHnIODHADHnEABHADHnORnUILLEANNnIFINnEAMHANCHOLLnPEITHgFEATHER MARKgREVERSED FEATHER ",
   "MARK@5792aRUNIC LETTER FEHU FEOH FE FnVnURUZ UR UnYRnYnWnTHURISAZ THURS THORNnETHnANSUZ AnOS ",
   "OnAC AoESCnLONG-BRANCH-OSS OnSHORT-TWIG-OSS OnOoEoNnRAIDO RAD REID RnKAUNAnCENnKAUN KnGnENGnG",
   "EBO GYFU GoARnWUNJO WYNN WnHAGLAZ HpEGL HnLONG-BRANCH-HAGALL HnSHORT-TWIG-HAGALL HnNAUDIZ NYD",
   " NAUD NnSHORT-TWIG-NAUD NnDOTTED-NnISAZ IS ISS InEnJERAN JnGERnLONG-BRANCH-AR AEnSHORT-TWIG-A",
   "R AnIWAZ EOHnPERTHO PEORTH PnALGIZ EOLHXnSOWILO SoIGEL LONG-BRANCH-SOL SoHORT-TWIG-SOL SnCnZn",
   "TIWAZ TIR TYR TnSHORT-TWIG-TYR TnDnBERKANAN BEORC BJARKAN BnSHORT-TWIG-BJARKAN BnDOTTED-PnOPE",
   "N-PnEHWAZ EH EnMANNAZ MAN MnLONG-BRANCH-MADR MnSHORT-TWIG-MADR MnLAUKAZ LAGU LOGR LnDOTTED-Ln",
   "INGWAZpGnDAGAZ DAEG DnOTHALAN ETHEL OnEARnIORnCWEORTHoALCoEALCnSTANnLONG-BRANCH-YRnSHORT-TWIG",
   "-YRnICELANDIC-YRnQnXgSINGLE PUNCTUATIONgMULTIPLE PUNCTUATIONgCROSS PUNCTUATIONgARLAUG SYMBOLg",
   "TVIMADUR SYMBOLgBELGTHOR SYMBOLgLETTER KnSHnOOnFRANKS CASKET OSbbISbbEHbbACbcESC@5888aTAGALOG",
   " LETTER ApIpUpKApGApNGApTApDApNApPApBApMApYApRApLApWApSApHAiVOWEL SIGN ItUiSIGN VIRAMAnPAMUDP",
   "OD@5919iLETTER ARCHAIC RAaHANUNOO LETTER ApIpUpKApGApNGApTApDApNApPApBApMApYApRApLApWApSApHAi",
   "VOWEL SIGN ItUiSIGN PAMUDPODaPHILIPPINE SINGLE PUNCTUATIONlDOUBLE PUNCTUATION@5952aBUHID LETT",
   "ER AnInUnKAnGAnNGAnTAnDAnNAnPAnBAnMAnYAnRAnLAnWAnSAnHAgVOWEL SIGN IrU@5984aTAGBANWA LETTER Aq",
   "IqUqKAqGAqNGAqTAqDAqNAqPAqBAqMAqYA@5998qLAqWAqSA@6002jVOWEL SIGN IuU@6016aKHMER LETTER KAoHAo",
   "OoHOnNGOnCAoHAoOoHOnNYOnDAnTTHAnDOnTTHOnNNOnTAoHAoOoHOnNOnBAnPHAoOoHOnMOnYOnROnLOnVOnSHAoSOoA",
   "nHAnLAnQAgINDEPENDENT VOWEL QAQbaAzIbaIzUbaKbaUbbVyRYbaYyLYbaYyQEzAIzOO TYPE ONEbhTWOzAUgVOWE",
   "L INHERENT AQwAmSIGN AArIsIrYsYrUsUsArOErYArIErErAEsIrOOrAUgSIGN NIKAHITlREAHMUKlYUUKALEAPINT",
   "UlMUUSIKATOANlTRIISAPlBANTOClROBATlTOANDAKHIATlKAKABATlAHSDAlSAMYOK SANNYAlVIRIAMlCOENGlBATHA",
   "MASATlKHANlBARIYOOSANlCAMNUC PII KUUHlLEK TOOlBEYYALlPHNAEK MUANlKOOMUUTgCURRENCY SYMBOL RIEL",
   "gSIGN AVAKRAHASANYAmTTHACAN@6112gDIGIT ZEROmONEmTWOnHREEmFOURnIVEmSIXnEVENmEIGHTmNINE@6128gSY",
   "MBOL LEK ATTAK SONxMUOYxPIIxBEIyUONxPRAMbb-MUOYbcPIIbcBEIbdUON@6144aMONGOLIAN BIRGAkELLIPSISk",
   "COMMAkFULL STOPkCOLONkFOUR DOTSkTODO SOFT HYPHENkSIBE SYLLABLE BOUNDARY MARKERkMANCHU COMMArF",
   "ULL STOPkNIRUGUkFREE VARIATION SELECTOR ONEbiTWObjHREEkVOWEL SEPARATORkFREE VARIATION SELECTO",
   "R FOURkDIGIT ZEROqONEqTWOrHREEqFOURrIVEqSIXrEVENqEIGHTqNINE@6176kLETTER ArErIrOrUrOErUErEErNA",
   "rANGrBArPArQArGArMArLArSAsHArTArDArCHArJArYArRArWArFArKAsHArTSArZArHAArZRArLHArZHIrCHIrTODO L",
   "ONG VOWEL SIGNwEwIwOwUwOEwUEwANGwBAwPAwQAwGAwMAwTAwDAwCHAwJAwTSAwYAwWAwKAwGAAwHAAwJIAwNIAwDZA",
   "rSIBE EwIxYwUEwUwANGwKAwGAwHAwPAwSHAwTAwDAwJAwFAwGAAwHAAwTSAwZAwRAAwCHAwZHArMANCHU IyKAyRAyFA",
   "yZHArCHA WITH TWO DOTS@6272rALI GALI ANUSVARA ONEbaVISARGA ONEbaDAMARUbaUBADAMAbaINVERTED UBA",
   "DAMAbaBALUDAbaTHREE BALUDAbaAbaIbaKAbaNGAbaCAbaTTAbcHAbaDDAbaNNAbaTAbaDAbaPAbbHAbaSSAbaZHAbbA",
   "baAHrTODO ALI GALI TAbfZHArMANCHU ALI GALI GHAbhNGAbhCAbhJHAbhTTAbhDDHAbhTAbhDHAbhSSAbhCYAbhZ",
   "HAbiArALI GALI HALF UbfYArMANCHU ALI GALI BHArALI GALI DAGALGArMANCHU ALI GALI LHA@6320aCANAD",
   "IAN SYLLABICS OYtAYuAYtWAYtPOYuAYuWOYtTAYtKAYuWAYtMAYtNOYuAYtLAYtSOYuAYuHOYvAYvWOYtYOYuAYtRAY",
   "tNWItOJIBWAY NWItNWIItOJIBWAY NWIItNWOtOJIBWAY NWOtNWOOtOJIBWAY NWOOtRWEEvIwIvOwOvAtOJIBWAY P",
   "bbTbbKbbCbbMbbNbbSbcHtEASTERN WtWESTERN WtFINAL SMALL RINGzRAISED DOTtR-CREE RWEtWEST-CREE LO",
   "ObeAAtTHWEwAuTHWEwOOwAAuLHWEwOOtSAYISI SHWEbcOObaHOOtCARRIER GWUbbDENE GEEbbGAAbcWAtSAYISI JU",
   "UtCARRIER JWAtBEAVER DENE LbfRtCARRIER DENTAL S@6400aLIMBU VOWEL-CARRIER LETTERgLETTER KAoHAn",
   "GAoHAnNGAnCAoHAnJAoHAnYANnTAoHAnDAoHAnNAnPAoHAnBAoHAnMAnYAnRAnLAnWAnSHAoSAoAnHAnGYANnTRA@6432",
   "gVOWEL SIGN ArIrUrEErAIrOOrAUrErOgSUBJOINED LETTER YAxRAxWA@6448hMALL LETTER KAtNGAtANUSVARAt",
   "TAtNAtPAtMAtRAtLAhIGN MUKPHRENGlKEMPHRENGlSA-I@6464lLOO@6468gEXCLAMATION MARKgQUESTION MARKgD",
   "IGIT ZEROmONEmTWOnHREEmFOURnIVEmSIXnEVENmEIGHTmNINEaTAI LE LETTER KAoXAoNGAoTSAoSAoYAoTApHAoL",
   "AoPApHAoMAoFAoVAoHAoQAoKHAoTSHAoNAoAoIoEEpHoUoOOoOoUEoEoAUEpI@6512oTONE-2t3t4t5t6@6528aNEW TA",
   "I LUE LETTER HIGH QAtLOW QAtHIGH KAyXAyNGAtLOW KAxXAxNGAtHIGH TSAySAyYAtLOW TSAxSAxYAtHIGH TA",
   "zHAyNAtLOW TAyHAxNAtHIGH PAzHAyMAtLOW PAyHAxMAtHIGH FAyVAyLAtLOW FAxVAxLAtHIGH HAyDAyBAtLOW H",
   "AxDAxBAtHIGH KVAyXVAtLOW KVAxXVAtHIGH SUAtLOW SUA@6576mVOWEL SIGN VOWEL SHORTENERxAAxIIxUyUxE",
   "xAExOyAxUExAYyAYxUYxOYyAYxUEYxIYmLETTER FINAL VzNGzNzMzKzDzBmTONE MARK-1w2@6608mDIGIT ZEROsON",
   "EsTWOtHREEsFOURtIVEsSIXtEVENsEIGHTsNINEmTHAM DIGIT ONE@6622mSIGN LAEuVaKHMER SYMBOL PATHAMASA",
   "TnMUOY KOETnPII KOETnBEI KOEToUON KOETnPRAM KOETr-MUOY KOETsPII KOETsBEI KOETtUON KOETnDAP KO",
   "ETq-MUOY KOETrPII KOETrBEI KOETsUON KOETrPRAM KOETnTUTEYASATnMUOY ROCnPII ROCnBEI ROCoUON ROC",
   "nPRAM ROCr-MUOY ROCsPII ROCsBEI ROCtUON ROCnDAP ROCq-MUOY ROCrPII ROCrBEI ROCsUON ROCrPRAM RO",
   "CaBUGINESE LETTER KAqGAqNGAsKAqPAqBAqMArPAqTAqDAqNArRAqCAqJAqNYAsCAqYAqRAqLAqVAqSAqAqHAjVOWEL",
   " SIGN IuUuEuOuAE@6686jPALLAWAjEND OF SECTIONaTAI THAM LETTER HIGH KAwHAwXAqLOW KAvXAvHAqNGAqH",
   "IGH CAwHAqLOW CAuSAuCHAqNYAqRATAqHIGH RATHAqDAqLOW RATHAqRANAqHIGH TAwHAqLOW TAvHAqNAqBAqHIGH",
   " PAwHAvFAqLOW PAuFAuPHAqMAqLOW YAqHIGH YAqRArUEqLArUEqWAqHIGH SHAwSAwAvHAqLLAqAqLOW HAqIrIqUr",
   "UqEEqOOqLAEqGREAT SAjCONSONANT SIGN MEDIAL RAbfLAyLA TANG LAIjSIGN MAI KANG LAIjCONSONANT SIG",
   "N FINAL NGAyLOW PAyHIGH RATHA OR LOW PAyMAyBAySA@6752jSIGN SAKOTjVOWEL SIGN AuMAI SATuAAuTALL",
   " AAuIvIuUEvUEuUvUuOvA BELOWvYuEuAEuOOuAIuTHAM AIuOA ABOVEjSIGN MAI KANGoTONE-1t2oKHUEN TONE-3",
   "z4z5oRA HAAMoMAI SAMoKHUEN-LUE KARAN@6783jCOMBINING CRYPTOGRAMMIC DOTjHORA DIGIT ZEROuONEuTWO",
   "vHREEuFOURvIVEuSIXvEVENuEIGHTuNINE@6800jTHAM DIGIT ZEROuONEuTWOvHREEuFOURvIVEuSIXvEVENuEIGHTu",
   "NINE@6816jSIGN WIANGtWAAKoSAWANoKEOWoHOYoDOKMAIoREVERSED ROTATED RANAoMAI YAMOKoKAANsKUUoSATK",
   "AANvKUUoHANGoCAANG@6832aCOMBINING DOUBLED CIRCUMFLEX ACCENTlIAERESIS-RINGkINFINITYkDOWNWARDS ",
   "ARROWkTRIPLE DOTkX-X BELOWkWIGGLY LINE BELOWkOPEN MARK BELOWkDOUBLE OPEN MARK BELOWkLIGHT CEN",
   "TRALIZATION STROKE BELOWkSTRONG CENTRALIZATION STROKE BELOWkPARENTHESES ABOVEkDOUBLE PARENTHE",
   "SES ABOVEkPARENTHESES BELOWwOVERLAYkLATIN SMALL LETTER W BELOWbdTURNED W BELOWlEFT PARENTHESI",
   "S ABOVE LEFTkRIGHT PARENTHESIS ABOVE RIGHTkLEFT PARENTHESIS BELOW LEFTkRIGHT PARENTHESIS BELO",
   "W RIGHTkSQUARE BRACKETS ABOVEkNUMBER SIGN ABOVEkINVERTED DOUBLE ARCH ABOVEkPLUS SIGN ABOVEkDO",
   "UBLE PLUS SIGN ABOVEbbBELOWkTRIPLE ACUTE ACCENTkLATIN SMALL LETTER INSULAR GblRblT@6912aBALIN",
   "ESE SIGN ULU RICEMsCANDRAoCECEKoSURANGoBISAHjLETTER AKARAv TEDUNGqIKARAv TEDUNGqUKARAv TEDUNG",
   "qRA REPAx TEDUNGqLA LENGAy TEDUNGqEKARAqAIKARAqOKARAv TEDUNGqKAs MAHAPRANAqGAs GORAqNGAqCAs L",
   "ACAqJAs JERAqNYAqTA LATIKtMURDA MAHAPRANAqDA MURDA ALPAPRANAzMAHAPRANAqNA RAMBATqTAs TAWAqDAs",
   " MADUqNAqPAs KAPALqBAs KEMBANGqMAqYAqRAqLAqWAqSA SAGAvPArAqHAjSIGN REREKANjVOWEL SIGN TEDUNGu",
   "ULUx SARIuSUKUy ILUTuRA REPAbb TEDUNGuLA LENGAbc TEDUNGuTALINGba REPAbbTEDUNGbbREPA TEDUNGuPE",
   "PETz TEDUNGjADEG ADEGjLETTER KAF SASAKrHOT SASAKqTZIR SASAKqEF SASAKqVE SASAKqZAL SASAKqASYUR",
   "A SASAKrRCHAIC JNYA@6992jDIGIT ZEROpONEpTWOqHREEpFOURqIVEpSIXqEVENpEIGHTpNINEjPANTIlMADAjWIND",
   "UjCARIK PAMUNGKAHpSIKIpPARERENjPAMENENGjMUSICAL SYMBOL DONGzENGzUNGzANGbc SURANGzINGzAENGzEUN",
   "GzAINGbaNG GEDEyCOMBINING TEGEHbiENDEPbiKEMPULbmLIbiJEGOGANbiKEMPUL WITH JEGOGANbmLI WITH JEG",
   "OGANbiBENDEbiGONGyRIGHT-HAND OPEN DUGbpAGbjCLOSED TUKbrAKyLEFT-HAND OPEN PANGboUNGbiCLOSED PL",
   "AKbrUKbiOPEN PINGjPANTI LANTANGlMADA LANTANG@7040aSUNDANESE SIGN PANYECEKsGLAYARtWISADkLETTER",
   " ArIrUrAErOrEsUrKArQArGArNGArCArJArZArNYArTArDArNArPArFArVArBArMArYArRArLArWArSArXArHAkCONSON",
   "ANT SIGN PAMINGKALbbNYAKRAbdIKUkVOWEL SIGN PANGHULUyYUKUyAELAENGyOLONGxMEPETxNEULEUNGkSIGN PA",
   "MAAEHpVIRAMAkCONSONANT SIGN PASANGAN MAbiWAkLETTER KHArSYAkDIGIT ZEROqONEqTWOrHREEqFOURrIVEqS",
   "IXrEVENqEIGHTqNINEkAVAGRAHAkLETTER REUrLEUrBHArFINAL KxMaBATAK LETTER AnSIMALUNGUN AnHAnSIMAL",
   "UNGUN HAnMANDAILING HAnBAnKARO BAnPAnSIMALUNGUN PAnNAnMANDAILING NAnWAnSIMALUNGUN WAnPAKPAK W",
   "AnGAnSIMALUNGUN GAnJAnDAnRAnSIMALUNGUN RAnMAnSIMALUNGUN MAoOUTHERN TAnNORTHERN TAnSAoIMALUNGU",
   "N SAnMANDAILING SAnYAnSIMALUNGUN YAnNGAnLAnSIMALUNGUN LAnNYAnCAnNDAnMBAnInUgSIGN TOMPIgVOWEL ",
   "SIGN ErPAKPAK ErEErIrKARO IrOrKARO OrUs FOR SIMALUNGUN SAgCONSONANT SIGN NGvHgPANGOLATjONGONA",
   "N@7164gSYMBOL BINDU NA METEKtPINARBORAStJUDULtPANGOLATaLEPCHA LETTER KApLApHAoGApLAoNGAoCApHA",
   "oJAoNYAoTApHAoDAoNAoPApLApHAoFApLAoBApLAoMApLAoTSAqHAoDZAoYAoRAoLAoHApLAoVAoSApHAoWAoAhSUBJOI",
   "NED LETTER YAyRAhVOWEL SIGN AAsIsOtOsUtUsEhCONSONANT SIGN KwMwLwNwPwRwTwNYIN-DOwKANGhSIGN RAN",
   "mNUKTA@7227hPUNCTUATION TA-ROLtNYET THYOOM TA-ROLtCER-WAtTSHOOK CER-WAyKhDIGIT ZEROnONEnTWOoH",
   "REEnFOURoIVEnSIXoEVENnEIGHTnNINE@7245hLETTER TTAqHAoDDAaOL CHIKI DIGIT ZEROpONEpTWOqHREEpFOUR",
   "qIVEpSIXqEVENpEIGHTpNINEjLETTER LAqATrGrNGrLqLAAqAAKsJsMsWqLIqISrHrNYrRqLUqUCrDrNNrYqLEqEPrDD",
   "rNrRRqLOqOTTrBrVrHjMU TTUDDAGjGAAHLAA TTUDDAAGjMU-GAAHLAA TTUDDAAGjRELAAjPHAARKAAjAHADjPUNCTU",
   "ATION MUCAADvDOUBLE MUCAADaCYRILLIC SMALL LETTER ROUNDED VEwLONG-LEGGED DEwNARROW OwWIDE ESwT",
   "ALL TExHREE-LEGGED TExALL HARD SIGNbbYATwUNBLENDED UK@7312aGEORGIAN MTAVRULI CAPITAL LETTER A",
   "NbhBANbhGANbhDONbhENbhVINbhZENbhTANbhINbhKANbhLASbhMANbhNARbhONbhPARbhZHARbhRAEbhSANbhTARbhUN",
   "bhPHARbhKHARbhGHANbhQARbhSHINbhCHINbiANbhJILbhCILbiHARbhXANbhJHANbhHAEbiEbiIEbhWEbhHARbiOEbhF",
   "IbhYNbhELIFIbhTURNED GANbhAIN@7357biENbhHARD SIGNbhLABIAL SIGNaSUNDANESE PUNCTUATION BINDU SU",
   "RYAbcPANGLONGbdURNAMAbcCAKRAbcLEU SATANGAbcKA SATANGAbcDA SATANGAbcBA SATANGA@7376aVEDIC TONE",
   " KARSHANAlSHARAlPRENKHAgSIGN NIHSHVASAlYAJURVEDIC MIDLINE SVARITAgTONE YAJURVEDIC AGGRAVATED ",
   "INDEPENDENT SVARITAwINDEPENDENT SVARITAwKATHAKA INDEPENDENT SVARITAlCANDRA BELOWlYAJURVEDIC K",
   "ATHAKA INDEPENDENT SVARITA SCHROEDERlDOUBLE SVARITAlTRIPLE SVARITAlKATHAKA ANUDATTAlDOT BELOW",
   "lTWO DOTS BELOWmHREE DOTS BELOWlRIGVEDIC KASHMIRI INDEPENDENT SVARITAlATHARVAVEDIC INDEPENDEN",
   "T SVARITAgSIGN VISARGA SVARITAtUDATTAlREVERSED VISARGA UDATTAlVISARGA ANUDATTAlREVERSED VISAR",
   "GA ANUDATTAlVISARGA UDATTA WITH TAILtANUDATTA WITH TAILlANUSVARA ANTARGOMUKHAuBAHIRGOMUKHAuVA",
   "MAGOMUKHAbf WITH TAILlTIRYAKlHEXIFORM LONG ANUSVARAlLONG ANUSVARAlRTHANG LONG ANUSVARAlANUSVA",
   "RA UBHAYATO MUKHAmRDHAVISARGAlROTATED ARDHAVISARGAgTONE CANDRA ABOVEgSIGN JIHVAMULIYAlUPADHMA",
   "NIYAlATIKRAMAgTONE RING ABOVElDOUBLE RING ABOVEgSIGN DOUBLE ANUSVARA ANTARGOMUKHA@7424aLATIN ",
   "LETTER SMALL CAPITAL AbcEgSMALL LETTER TURNED AEgLETTER SMALL CAPITAL BARRED BbbCbbDbbETHbbEg",
   "SMALL LETTER TURNED OPEN EbaIgLETTER SMALL CAPITAL JbbKbbL WITH STROKEbbMbbREVERSED NbbObcPEN",
   " OgSMALL LETTER SIDEWAYS ObdPEN Obd WITH STROKEtTURNED OEgLETTER SMALL CAPITAL OUgSMALL LETTE",
   "R TOP HALF OtBOTTOM HALF OgLETTER SMALL CAPITAL PbbREVERSED RbbTURNED RbbTbbUgSMALL LETTER SI",
   "DEWAYS UbcDIAERESIZED UbcTURNED MgLETTER SMALL CAPITAL VbbWbbZbbEZHnVOICED LARYNGEAL SPIRANTn",
   "AINaGREEK LETTER SMALL CAPITAL GAMMAbbLAMDAbbPIbbRHObbPSIaCYRILLIC LETTER SMALL CAPITAL ELaMO",
   "DIFIER LETTER CAPITAL AzEyBzARRED ByDyEyREVERSED EyGyHyIyJyKyLyMyNyREVERSED NyOzUyPyRyTyUyWqS",
   "MALL AwTURNED AwALPHAwTURNED AEwBwDwEwSCHWAwOPEN EwTURNED OPEN EwGwTURNED IwKwMwENGwOxPEN OwT",
   "OP HALF OwBOTTOM HALF OwPwTwUwSIDEWAYS UwTURNED MwVwAINwBETAwGREEK GAMMAwDELTAwGREEK PHIwCHIa",
   "LATIN SUBSCRIPT SMALL LETTER IbdRbdUbdVaGREEK SUBSCRIPT SMALL LETTER BETAbdGAMMAbdRHObdPHIbdC",
   "HIaLATIN SMALL LETTER UEtB WITH MIDDLE TILDEtD WITH MIDDLE TILDEtF WITH MIDDLE TILDEtM WITH M",
   "IDDLE TILDEtN WITH MIDDLE TILDEtP WITH MIDDLE TILDEtR WITH MIDDLE TILDEbaFISHHOOK AND MIDDLE ",
   "TILDEtS WITH MIDDLE TILDEtT WITH MIDDLE TILDEtZ WITH MIDDLE TILDEtTURNED GaMODIFIER LETTER CY",
   "RILLIC ENaLATIN SMALL LETTER INSULAR GtTH WITH STRIKETHROUGHmCAPITAL LETTER I WITH STROKEmLET",
   "TER IOTA WITH STROKEtP WITH STROKEmCAPITAL LETTER U WITH STROKEmLETTER UPSILON WITH STROKEtB ",
   "WITH PALATAL HOOKtD WITH PALATAL HOOKtF WITH PALATAL HOOKtG WITH PALATAL HOOKtK WITH PALATAL ",
   "HOOKtL WITH PALATAL HOOKtM WITH PALATAL HOOKtN WITH PALATAL HOOKtP WITH PALATAL HOOKtR WITH P",
   "ALATAL HOOKtS WITH PALATAL HOOKtESH WITH PALATAL HOOKtV WITH PALATAL HOOKtX WITH PALATAL HOOK",
   "tZ WITH PALATAL HOOKtA WITH RETROFLEX HOOKuLPHA WITH RETROFLEX HOOKtD WITH HOOK AND TAILtE WI",
   "TH RETROFLEX HOOKtOPEN E WITH RETROFLEX HOOKtREVERSED OPEN E WITH RETROFLEX HOOKtSCHWA WITH R",
   "ETROFLEX HOOKtI WITH RETROFLEX HOOKtOPEN O WITH RETROFLEX HOOKtESH WITH RETROFLEX HOOKtU WITH",
   " RETROFLEX HOOKtEZH WITH RETROFLEX HOOKaMODIFIER LETTER SMALL TURNED ALPHAwCx WITH CURLwETHwR",
   "EVERSED OPEN EwFwDOTLESS J WITH STROKEwSCRIPT GwTURNED HwI WITH STROKExOTAwCAPITAL Ibf WITH S",
   "TROKEwJ WITH CROSSED-TAILwL WITH RETROFLEX HOOKbdPALATAL HOOKwCAPITAL LwM WITH HOOKwTURNED M ",
   "WITH LONG LEGwN WITH LEFT HOOKbdRETROFLEX HOOKwCAPITAL NwBARRED OwPHIwS WITH HOOKwESHwT WITH ",
   "PALATAL HOOKwU BARxPSILONwCAPITAL UwV WITH HOOKwTURNED VwZx WITH RETROFLEX HOOKbdCURLwEZHwTHE",
   "TAaCOMBINING DOTTED GRAVE ACCENTrACUTE ACCENTkSNAKE BELOWlUSPENSION MARKkMACRON-ACUTEkGRAVE-M",
   "ACRONkMACRON-GRAVEkACUTE-MACRONkGRAVE-ACUTE-GRAVEkACUTE-GRAVE-ACUTEkLATIN SMALL LETTER R BELO",
   "WkBREVE-MACRONkMACRON-BREVEkDOUBLE CIRCUMFLEX ABOVEkOGONEK ABOVEkZIGZAG BELOWkIS BELOWkUR ABO",
   "VElS ABOVEkLATIN SMALL LETTER FLATTENED OPEN A ABOVEbdAEbeObeVbdC CEDILLAbdINSULAR DbdETHbdGq",
   "LETTER SMALL CAPITAL GqSMALL LETTER KbdLqLETTER SMALL CAPITAL LblMqSMALL LETTER NqLETTER SMAL",
   "L CAPITAL NblRqSMALL LETTER R ROTUNDAbdSbdLONG SbdZbdALPHAbdBbeETAbdSCHWAbdFbdL WITH DOUBLE M",
   "IDDLE TILDEbdO WITH LIGHT CENTRALIZATION STROKEbdPbdESHbdU WITH LIGHT CENTRALIZATION STROKEbd",
   "WbdA WITH DIAERESISbdO WITH DIAERESISbdU WITH DIAERESISkUP TACK ABOVEkKAVYKA ABOVE RIGHTxLEFT",
   "kDOT ABOVE LEFTkWIDE INVERTED BRIDGE BELOWkDOT BELOW LEFTlELETION MARKlOUBLE INVERTED BREVE B",
   "ELOWkALMOST EQUAL TO BELOWkLEFT ARROWHEAD ABOVEkRIGHT ARROWHEAD AND DOWN ARROWHEAD BELOWaLATI",
   "N CAPITAL LETTER A WITH RING BELOWgSMALL LETTER A WITH RING BELOWgCAPITAL LETTER B WITH DOT A",
   "BOVEgSMALL LETTER B WITH DOT ABOVEgCAPITAL LETTER B WITH DOT BELOWgSMALL LETTER B WITH DOT BE",
   "LOWgCAPITAL LETTER B WITH LINE BELOWgSMALL LETTER B WITH LINE BELOWgCAPITAL LETTER C WITH CED",
   "ILLA AND ACUTEgSMALL LETTER C WITH CEDILLA AND ACUTEgCAPITAL LETTER D WITH DOT ABOVEgSMALL LE",
   "TTER D WITH DOT ABOVEgCAPITAL LETTER D WITH DOT BELOWgSMALL LETTER D WITH DOT BELOWgCAPITAL L",
   "ETTER D WITH LINE BELOWgSMALL LETTER D WITH LINE BELOWgCAPITAL LETTER D WITH CEDILLAgSMALL LE",
   "TTER D WITH CEDILLAgCAPITAL LETTER D WITH CIRCUMFLEX BELOWgSMALL LETTER D WITH CIRCUMFLEX BEL",
   "OWgCAPITAL LETTER E WITH MACRON AND GRAVEgSMALL LETTER E WITH MACRON AND GRAVEgCAPITAL LETTER",
   " E WITH MACRON AND ACUTEgSMALL LETTER E WITH MACRON AND ACUTEgCAPITAL LETTER E WITH CIRCUMFLE",
   "X BELOWgSMALL LETTER E WITH CIRCUMFLEX BELOWgCAPITAL LETTER E WITH TILDE BELOWgSMALL LETTER E",
   " WITH TILDE BELOWgCAPITAL LETTER E WITH CEDILLA AND BREVEgSMALL LETTER E WITH CEDILLA AND BRE",
   "VEgCAPITAL LETTER F WITH DOT ABOVEgSMALL LETTER F WITH DOT ABOVEgCAPITAL LETTER G WITH MACRON",
   "gSMALL LETTER G WITH MACRONgCAPITAL LETTER H WITH DOT ABOVEgSMALL LETTER H WITH DOT ABOVEgCAP",
   "ITAL LETTER H WITH DOT BELOWgSMALL LETTER H WITH DOT BELOWgCAPITAL LETTER H WITH DIAERESISgSM",
   "ALL LETTER H WITH DIAERESISgCAPITAL LETTER H WITH CEDILLAgSMALL LETTER H WITH CEDILLAgCAPITAL",
   " LETTER H WITH BREVE BELOWgSMALL LETTER H WITH BREVE BELOWgCAPITAL LETTER I WITH TILDE BELOWg",
   "SMALL LETTER I WITH TILDE BELOWgCAPITAL LETTER I WITH DIAERESIS AND ACUTEgSMALL LETTER I WITH",
   " DIAERESIS AND ACUTEgCAPITAL LETTER K WITH ACUTEgSMALL LETTER K WITH ACUTEgCAPITAL LETTER K W",
   "ITH DOT BELOWgSMALL LETTER K WITH DOT BELOWgCAPITAL LETTER K WITH LINE BELOWgSMALL LETTER K W",
   "ITH LINE BELOWgCAPITAL LETTER L WITH DOT BELOWgSMALL LETTER L WITH DOT BELOWgCAPITAL LETTER L",
   " WITH DOT BELOW AND MACRONgSMALL LETTER L WITH DOT BELOW AND MACRONgCAPITAL LETTER L WITH LIN",
   "E BELOWgSMALL LETTER L WITH LINE BELOWgCAPITAL LETTER L WITH CIRCUMFLEX BELOWgSMALL LETTER L ",
   "WITH CIRCUMFLEX BELOWgCAPITAL LETTER M WITH ACUTEgSMALL LETTER M WITH ACUTEgCAPITAL LETTER M ",
   "WITH DOT ABOVEgSMALL LETTER M WITH DOT ABOVEgCAPITAL LETTER M WITH DOT BELOWgSMALL LETTER M W",
   "ITH DOT BELOWgCAPITAL LETTER N WITH DOT ABOVEgSMALL LETTER N WITH DOT ABOVEgCAPITAL LETTER N ",
   "WITH DOT BELOWgSMALL LETTER N WITH DOT BELOWgCAPITAL LETTER N WITH LINE BELOWgSMALL LETTER N ",
   "WITH LINE BELOWgCAPITAL LETTER N WITH CIRCUMFLEX BELOWgSMALL LETTER N WITH CIRCUMFLEX BELOWgC",
   "APITAL LETTER O WITH TILDE AND ACUTEgSMALL LETTER O WITH TILDE AND ACUTEgCAPITAL LETTER O WIT",
   "H TILDE AND DIAERESISgSMALL LETTER O WITH TILDE AND DIAERESISgCAPITAL LETTER O WITH MACRON AN",
   "D GRAVEgSMALL LETTER O WITH MACRON AND GRAVEgCAPITAL LETTER O WITH MACRON AND ACUTEgSMALL LET",
   "TER O WITH MACRON AND ACUTEgCAPITAL LETTER P WITH ACUTEgSMALL LETTER P WITH ACUTEgCAPITAL LET",
   "TER P WITH DOT ABOVEgSMALL LETTER P WITH DOT ABOVEgCAPITAL LETTER R WITH DOT ABOVEgSMALL LETT",
   "ER R WITH DOT ABOVEgCAPITAL LETTER R WITH DOT BELOWgSMALL LETTER R WITH DOT BELOWgCAPITAL LET",
   "TER R WITH DOT BELOW AND MACRONgSMALL LETTER R WITH DOT BELOW AND MACRONgCAPITAL LETTER R WIT",
   "H LINE BELOWgSMALL LETTER R WITH LINE BELOWgCAPITAL LETTER S WITH DOT ABOVEgSMALL LETTER S WI",
   "TH DOT ABOVEgCAPITAL LETTER S WITH DOT BELOWgSMALL LETTER S WITH DOT BELOWgCAPITAL LETTER S W",
   "ITH ACUTE AND DOT ABOVEgSMALL LETTER S WITH ACUTE AND DOT ABOVEgCAPITAL LETTER S WITH CARON A",
   "ND DOT ABOVEgSMALL LETTER S WITH CARON AND DOT ABOVEgCAPITAL LETTER S WITH DOT BELOW AND DOT ",
   "ABOVEgSMALL LETTER S WITH DOT BELOW AND DOT ABOVEgCAPITAL LETTER T WITH DOT ABOVEgSMALL LETTE",
   "R T WITH DOT ABOVEgCAPITAL LETTER T WITH DOT BELOWgSMALL LETTER T WITH DOT BELOWgCAPITAL LETT",
   "ER T WITH LINE BELOWgSMALL LETTER T WITH LINE BELOWgCAPITAL LETTER T WITH CIRCUMFLEX BELOWgSM",
   "ALL LETTER T WITH CIRCUMFLEX BELOWgCAPITAL LETTER U WITH DIAERESIS BELOWgSMALL LETTER U WITH ",
   "DIAERESIS BELOWgCAPITAL LETTER U WITH TILDE BELOWgSMALL LETTER U WITH TILDE BELOWgCAPITAL LET",
   "TER U WITH CIRCUMFLEX BELOWgSMALL LETTER U WITH CIRCUMFLEX BELOWgCAPITAL LETTER U WITH TILDE ",
   "AND ACUTEgSMALL LETTER U WITH TILDE AND ACUTEgCAPITAL LETTER U WITH MACRON AND DIAERESISgSMAL",
   "L LETTER U WITH MACRON AND DIAERESISgCAPITAL LETTER V WITH TILDEgSMALL LETTER V WITH TILDEgCA",
   "PITAL LETTER V WITH DOT BELOWgSMALL LETTER V WITH DOT BELOWgCAPITAL LETTER W WITH GRAVEgSMALL",
   " LETTER W WITH GRAVEgCAPITAL LETTER W WITH ACUTEgSMALL LETTER W WITH ACUTEgCAPITAL LETTER W W",
   "ITH DIAERESISgSMALL LETTER W WITH DIAERESISgCAPITAL LETTER W WITH DOT ABOVEgSMALL LETTER W WI",
   "TH DOT ABOVEgCAPITAL LETTER W WITH DOT BELOWgSMALL LETTER W WITH DOT BELOWgCAPITAL LETTER X W",
   "ITH DOT ABOVEgSMALL LETTER X WITH DOT ABOVEgCAPITAL LETTER X WITH DIAERESISgSMALL LETTER X WI",
   "TH DIAERESISgCAPITAL LETTER Y WITH DOT ABOVEgSMALL LETTER Y WITH DOT ABOVEgCAPITAL LETTER Z W",
   "ITH CIRCUMFLEXgSMALL LETTER Z WITH CIRCUMFLEXgCAPITAL LETTER Z WITH DOT BELOWgSMALL LETTER Z ",
   "WITH DOT BELOWgCAPITAL LETTER Z WITH LINE BELOWgSMALL LETTER Z WITH LINE BELOWtH WITH LINE BE",
   "LOWtT WITH DIAERESIStW WITH RING ABOVEtY WITH RING ABOVEtA WITH RIGHT HALF RINGtLONG S WITH D",
   "OT ABOVEbgIAGONAL STROKEbfHIGH STROKEgCAPITAL LETTER SHARP SgSMALL LETTER DELTAgCAPITAL LETTE",
   "R A WITH DOT BELOWgSMALL LETTER A WITH DOT BELOWgCAPITAL LETTER A WITH HOOK ABOVEgSMALL LETTE",
   "R A WITH HOOK ABOVEgCAPITAL LETTER A WITH CIRCUMFLEX AND ACUTEgSMALL LETTER A WITH CIRCUMFLEX",
   " AND ACUTEgCAPITAL LETTER A WITH CIRCUMFLEX AND GRAVEgSMALL LETTER A WITH CIRCUMFLEX AND GRAV",
   "EgCAPITAL LETTER A WITH CIRCUMFLEX AND HOOK ABOVEgSMALL LETTER A WITH CIRCUMFLEX AND HOOK ABO",
   "VEgCAPITAL LETTER A WITH CIRCUMFLEX AND TILDEgSMALL LETTER A WITH CIRCUMFLEX AND TILDEgCAPITA",
   "L LETTER A WITH CIRCUMFLEX AND DOT BELOWgSMALL LETTER A WITH CIRCUMFLEX AND DOT BELOWgCAPITAL",
   " LETTER A WITH BREVE AND ACUTEgSMALL LETTER A WITH BREVE AND ACUTEgCAPITAL LETTER A WITH BREV",
   "E AND GRAVEgSMALL LETTER A WITH BREVE AND GRAVEgCAPITAL LETTER A WITH BREVE AND HOOK ABOVEgSM",
   "ALL LETTER A WITH BREVE AND HOOK ABOVEgCAPITAL LETTER A WITH BREVE AND TILDEgSMALL LETTER A W",
   "ITH BREVE AND TILDEgCAPITAL LETTER A WITH BREVE AND DOT BELOWgSMALL LETTER A WITH BREVE AND D",
   "OT BELOWgCAPITAL LETTER E WITH DOT BELOWgSMALL LETTER E WITH DOT BELOWgCAPITAL LETTER E WITH ",
   "HOOK ABOVEgSMALL LETTER E WITH HOOK ABOVEgCAPITAL LETTER E WITH TILDEgSMALL LETTER E WITH TIL",
   "DEgCAPITAL LETTER E WITH CIRCUMFLEX AND ACUTEgSMALL LETTER E WITH CIRCUMFLEX AND ACUTEgCAPITA",
   "L LETTER E WITH CIRCUMFLEX AND GRAVEgSMALL LETTER E WITH CIRCUMFLEX AND GRAVEgCAPITAL LETTER ",
   "E WITH CIRCUMFLEX AND HOOK ABOVEgSMALL LETTER E WITH CIRCUMFLEX AND HOOK ABOVEgCAPITAL LETTER",
   " E WITH CIRCUMFLEX AND TILDEgSMALL LETTER E WITH CIRCUMFLEX AND TILDEgCAPITAL LETTER E WITH C",
   "IRCUMFLEX AND DOT BELOWgSMALL LETTER E WITH CIRCUMFLEX AND DOT BELOWgCAPITAL LETTER I WITH HO",
   "OK ABOVEgSMALL LETTER I WITH HOOK ABOVEgCAPITAL LETTER I WITH DOT BELOWgSMALL LETTER I WITH D",
   "OT BELOWgCAPITAL LETTER O WITH DOT BELOWgSMALL LETTER O WITH DOT BELOWgCAPITAL LETTER O WITH ",
   "HOOK ABOVEgSMALL LETTER O WITH HOOK ABOVEgCAPITAL LETTER O WITH CIRCUMFLEX AND ACUTEgSMALL LE",
   "TTER O WITH CIRCUMFLEX AND ACUTEgCAPITAL LETTER O WITH CIRCUMFLEX AND GRAVEgSMALL LETTER O WI",
   "TH CIRCUMFLEX AND GRAVEgCAPITAL LETTER O WITH CIRCUMFLEX AND HOOK ABOVEgSMALL LETTER O WITH C",
   "IRCUMFLEX AND HOOK ABOVEgCAPITAL LETTER O WITH CIRCUMFLEX AND TILDEgSMALL LETTER O WITH CIRCU",
   "MFLEX AND TILDEgCAPITAL LETTER O WITH CIRCUMFLEX AND DOT BELOWgSMALL LETTER O WITH CIRCUMFLEX",
   " AND DOT BELOWgCAPITAL LETTER O WITH HORN AND ACUTEgSMALL LETTER O WITH HORN AND ACUTEgCAPITA",
   "L LETTER O WITH HORN AND GRAVEgSMALL LETTER O WITH HORN AND GRAVEgCAPITAL LETTER O WITH HORN ",
   "AND HOOK ABOVEgSMALL LETTER O WITH HORN AND HOOK ABOVEgCAPITAL LETTER O WITH HORN AND TILDEgS",
   "MALL LETTER O WITH HORN AND TILDEgCAPITAL LETTER O WITH HORN AND DOT BELOWgSMALL LETTER O WIT",
   "H HORN AND DOT BELOWgCAPITAL LETTER U WITH DOT BELOWgSMALL LETTER U WITH DOT BELOWgCAPITAL LE",
   "TTER U WITH HOOK ABOVEgSMALL LETTER U WITH HOOK ABOVEgCAPITAL LETTER U WITH HORN AND ACUTEgSM",
   "ALL LETTER U WITH HORN AND ACUTEgCAPITAL LETTER U WITH HORN AND GRAVEgSMALL LETTER U WITH HOR",
   "N AND GRAVEgCAPITAL LETTER U WITH HORN AND HOOK ABOVEgSMALL LETTER U WITH HORN AND HOOK ABOVE",
   "gCAPITAL LETTER U WITH HORN AND TILDEgSMALL LETTER U WITH HORN AND TILDEgCAPITAL LETTER U WIT",
   "H HORN AND DOT BELOWgSMALL LETTER U WITH HORN AND DOT BELOWgCAPITAL LETTER Y WITH GRAVEgSMALL",
   " LETTER Y WITH GRAVEgCAPITAL LETTER Y WITH DOT BELOWgSMALL LETTER Y WITH DOT BELOWgCAPITAL LE",
   "TTER Y WITH HOOK ABOVEgSMALL LETTER Y WITH HOOK ABOVEgCAPITAL LETTER Y WITH TILDEgSMALL LETTE",
   "R Y WITH TILDEgCAPITAL LETTER MIDDLE-WELSH LLgSMALL LETTER MIDDLE-WELSH LLgCAPITAL LETTER MID",
   "DLE-WELSH VgSMALL LETTER MIDDLE-WELSH VgCAPITAL LETTER Y WITH LOOPgSMALL LETTER Y WITH LOOPaG",
   "REEK SMALL LETTER ALPHA WITH PSILIbeDASIAbePSILI AND VARIAbeDASIA AND VARIAbePSILI AND OXIAbe",
   "DASIA AND OXIAbePSILI AND PERISPOMENIbeDASIA AND PERISPOMENIgCAPITAL LETTER ALPHA WITH PSILIb",
   "gDASIAbgPSILI AND VARIAbgDASIA AND VARIAbgPSILI AND OXIAbgDASIA AND OXIAbgPSILI AND PERISPOME",
   "NIbgDASIA AND PERISPOMENIgSMALL LETTER EPSILON WITH PSILIbgDASIAbgPSILI AND VARIAbgDASIA AND ",
   "VARIAbgPSILI AND OXIAbgDASIA AND OXIA@7960gCAPITAL LETTER EPSILON WITH PSILIbiDASIAbiPSILI AN",
   "D VARIAbiDASIA AND VARIAbiPSILI AND OXIAbiDASIA AND OXIA@7968gSMALL LETTER ETA WITH PSILIbcDA",
   "SIAbcPSILI AND VARIAbcDASIA AND VARIAbcPSILI AND OXIAbcDASIA AND OXIAbcPSILI AND PERISPOMENIb",
   "cDASIA AND PERISPOMENIgCAPITAL LETTER ETA WITH PSILIbeDASIAbePSILI AND VARIAbeDASIA AND VARIA",
   "bePSILI AND OXIAbeDASIA AND OXIAbePSILI AND PERISPOMENIbeDASIA AND PERISPOMENIgSMALL LETTER I",
   "OTA WITH PSILIbdDASIAbdPSILI AND VARIAbdDASIA AND VARIAbdPSILI AND OXIAbdDASIA AND OXIAbdPSIL",
   "I AND PERISPOMENIbdDASIA AND PERISPOMENIgCAPITAL LETTER IOTA WITH PSILIbfDASIAbfPSILI AND VAR",
   "IAbfDASIA AND VARIAbfPSILI AND OXIAbfDASIA AND OXIAbfPSILI AND PERISPOMENIbfDASIA AND PERISPO",
   "MENIgSMALL LETTER OMICRON WITH PSILIbgDASIAbgPSILI AND VARIAbgDASIA AND VARIAbgPSILI AND OXIA",
   "bgDASIA AND OXIA@8008gCAPITAL LETTER OMICRON WITH PSILIbiDASIAbiPSILI AND VARIAbiDASIA AND VA",
   "RIAbiPSILI AND OXIAbiDASIA AND OXIA@8016gSMALL LETTER UPSILON WITH PSILIbgDASIAbgPSILI AND VA",
   "RIAbgDASIA AND VARIAbgPSILI AND OXIAbgDASIA AND OXIAbgPSILI AND PERISPOMENIbgDASIA AND PERISP",
   "OMENI@8025gCAPITAL LETTER UPSILON WITH DASIA@8027bn AND VARIA@8029bsOXIA@8031bsPERISPOMENIgSM",
   "ALL LETTER OMEGA WITH PSILIbeDASIAbePSILI AND VARIAbeDASIA AND VARIAbePSILI AND OXIAbeDASIA A",
   "ND OXIAbePSILI AND PERISPOMENIbeDASIA AND PERISPOMENIgCAPITAL LETTER OMEGA WITH PSILIbgDASIAb",
   "gPSILI AND VARIAbgDASIA AND VARIAbgPSILI AND OXIAbgDASIA AND OXIAbgPSILI AND PERISPOMENIbgDAS",
   "IA AND PERISPOMENIgSMALL LETTER ALPHA WITH VARIAbeOXIAtEPSILON WITH VARIAbgOXIAuTA WITH VARIA",
   "bcOXIAtIOTA WITH VARIAbdOXIAtOMICRON WITH VARIAbgOXIAtUPSILON WITH VARIAbgOXIAtOMEGA WITH VAR",
   "IAbeOXIA@8064tALPHA WITH PSILI AND YPOGEGRAMMENIbeDASIA AND YPOGEGRAMMENIbePSILI AND VARIA AN",
   "D YPOGEGRAMMENIbeDASIA AND VARIA AND YPOGEGRAMMENIbePSILI AND OXIA AND YPOGEGRAMMENIbeDASIA A",
   "ND OXIA AND YPOGEGRAMMENIbePSILI AND PERISPOMENI AND YPOGEGRAMMENIbeDASIA AND PERISPOMENI AND",
   " YPOGEGRAMMENIgCAPITAL LETTER ALPHA WITH PSILI AND PROSGEGRAMMENIbgDASIA AND PROSGEGRAMMENIbg",
   "PSILI AND VARIA AND PROSGEGRAMMENIbgDASIA AND VARIA AND PROSGEGRAMMENIbgPSILI AND OXIA AND PR",
   "OSGEGRAMMENIbgDASIA AND OXIA AND PROSGEGRAMMENIbgPSILI AND PERISPOMENI AND PROSGEGRAMMENIbgDA",
   "SIA AND PERISPOMENI AND PROSGEGRAMMENIgSMALL LETTER ETA WITH PSILI AND YPOGEGRAMMENIbcDASIA A",
   "ND YPOGEGRAMMENIbcPSILI AND VARIA AND YPOGEGRAMMENIbcDASIA AND VARIA AND YPOGEGRAMMENIbcPSILI",
   " AND OXIA AND YPOGEGRAMMENIbcDASIA AND OXIA AND YPOGEGRAMMENIbcPSILI AND PERISPOMENI AND YPOG",
   "EGRAMMENIbcDASIA AND PERISPOMENI AND YPOGEGRAMMENIgCAPITAL LETTER ETA WITH PSILI AND PROSGEGR",
   "AMMENIbeDASIA AND PROSGEGRAMMENIbePSILI AND VARIA AND PROSGEGRAMMENIbeDASIA AND VARIA AND PRO",
   "SGEGRAMMENIbePSILI AND OXIA AND PROSGEGRAMMENIbeDASIA AND OXIA AND PROSGEGRAMMENIbePSILI AND ",
   "PERISPOMENI AND PROSGEGRAMMENIbeDASIA AND PERISPOMENI AND PROSGEGRAMMENIgSMALL LETTER OMEGA W",
   "ITH PSILI AND YPOGEGRAMMENIbeDASIA AND YPOGEGRAMMENIbePSILI AND VARIA AND YPOGEGRAMMENIbeDASI",
   "A AND VARIA AND YPOGEGRAMMENIbePSILI AND OXIA AND YPOGEGRAMMENIbeDASIA AND OXIA AND YPOGEGRAM",
   "MENIbePSILI AND PERISPOMENI AND YPOGEGRAMMENIbeDASIA AND PERISPOMENI AND YPOGEGRAMMENIgCAPITA",
   "L LETTER OMEGA WITH PSILI AND PROSGEGRAMMENIbgDASIA AND PROSGEGRAMMENIbgPSILI AND VARIA AND P",
   "ROSGEGRAMMENIbgDASIA AND VARIA AND PROSGEGRAMMENIbgPSILI AND OXIA AND PROSGEGRAMMENIbgDASIA A",
   "ND OXIA AND PROSGEGRAMMENIbgPSILI AND PERISPOMENI AND PROSGEGRAMMENIbgDASIA AND PERISPOMENI A",
   "ND PROSGEGRAMMENIgSMALL LETTER ALPHA WITH VRACHYbeMACRONbeVARIA AND YPOGEGRAMMENIbeYPOGEGRAMM",
   "ENIbeOXIA AND YPOGEGRAMMENI@8118bePERISPOMENIbp AND YPOGEGRAMMENIgCAPITAL LETTER ALPHA WITH V",
   "RACHYbgMACRONbgVARIAbgOXIAbgPROSGEGRAMMENIgKORONISgPROSGEGRAMMENIhSILIhERISPOMENIgDIALYTIKA A",
   "ND PERISPOMENIgSMALL LETTER ETA WITH VARIA AND YPOGEGRAMMENIbcYPOGEGRAMMENIbcOXIA AND YPOGEGR",
   "AMMENI@8134bcPERISPOMENIbn AND YPOGEGRAMMENIgCAPITAL LETTER EPSILON WITH VARIAbiOXIAwTA WITH ",
   "VARIAbeOXIAbePROSGEGRAMMENIgPSILI AND VARIAqOXIAqPERISPOMENIgSMALL LETTER IOTA WITH VRACHYbdM",
   "ACRONbdDIALYTIKA AND VARIAbrOXIA@8150bdPERISPOMENIbdDIALYTIKA AND PERISPOMENIgCAPITAL LETTER ",
   "IOTA WITH VRACHYbfMACRONbfVARIAbfOXIA@8157gDASIA AND VARIAqOXIAqPERISPOMENIgSMALL LETTER UPSI",
   "LON WITH VRACHYbgMACRONbgDIALYTIKA AND VARIAbuOXIAtRHO WITH PSILIbcDASIAtUPSILON WITH PERISPO",
   "MENIbgDIALYTIKA AND PERISPOMENIgCAPITAL LETTER UPSILON WITH VRACHYbiMACRONbiVARIAbiOXIAvRHO W",
   "ITH DASIAgDIALYTIKA AND VARIAuOXIAgVARIA@8178gSMALL LETTER OMEGA WITH VARIA AND YPOGEGRAMMENI",
   "beYPOGEGRAMMENIbeOXIA AND YPOGEGRAMMENI@8182bePERISPOMENIbp AND YPOGEGRAMMENIgCAPITAL LETTER ",
   "OMICRON WITH VARIAbiOXIAxEGA WITH VARIAbgOXIAbgPROSGEGRAMMENIgOXIAgDASIA"]

end CallSites.Text.CharacterName
