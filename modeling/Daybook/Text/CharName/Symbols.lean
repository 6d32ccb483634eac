import Daybook.Text.CharName.Row

/-!
Names of the characters from 2000 to 2FFF in base sixteen: punctuation, arrows, operators and
other symbols, and some further alphabets.
-/

namespace Daybook.Text.CharName

def symbols : List Row := [
  ⟨0x2000, [
    "aEN QUADaEMqaEN SPACEaEMqaTHREE-PER-EMqaFOUR-PER-EMqaSIX-PER-EMqaFIGUREqaPUNCTUATIONqaTHINq",
    "aHAIRqaZERO WIDTHqcNON-JOINERcJOINERaLEFT-TO-RIGHT MARKaRIGHT-TO-LEFTqaHYPHENaNON-BREAKINGq",
    "aFIGURE DASHaENqaEMqaHORIZONTAL BARaDOUBLE VERTICAL LINEbLOWqaLEFT SINGLE QUOTATION MARK",
    "aRIGHTsaSINGLE LOW-9rbHIGH-REVERSED-9raLEFT DOUBLEraRIGHTsaDOUBLE LOW-9rbHIGH-REVERSED-9r",
    "aDAGGERaDOUBLEqaBULLETaTRIANGULARqaONE DOT LEADERaTWOraHORIZONTAL ELLIPSIS",
    "aHYPHENATION POINTaLINE SEPARATORaPARAGRAPHqaLEFT-TO-RIGHT EMBEDDINGaRIGHT-TO-LEFTq",
    "aPOP DIRECTIONAL FORMATTINGaLEFT-TO-RIGHT OVERRIDEaRIGHT-TO-LEFTqaNARROW NO-BREAK SPACE",
    "aPER MILLE SIGNbTEN THOUSANDqaPRIMEaDOUBLEqaTRIPLEqaREVERSEDqbDOUBLEqbTRIPLEqaCARET",
    "aSINGLE LEFT-POINTING ANGLE QUOTATION MARKbRIGHT-POINTINGsaREFERENCEqaDOUBLE EXCLAMATIONq",
    "aINTERROBANGaOVERLINEaUNDERTIEaCHARACTER TIEaCARET INSERTION POINTaASTERISMaHYPHEN BULLET",
    "aFRACTION SLASHaLEFT SQUARE BRACKET WITH QUILLaRIGHTtaDOUBLE QUESTION MARK",
    "aQUESTION EXCLAMATIONqaEXCLAMATION QUESTIONqaTIRONIAN SIGN ETaREVERSED PILCROW SIGN",
    "aBLACK LEFTWARDS BULLETbRIGHTWARDSqaLOW ASTERISKaREVERSED SEMICOLONaCLOSE UP",
    "aTWO ASTERISKS ALIGNED VERTICALLYaCOMMERCIAL MINUS SIGNaSWUNG DASHaINVERTED UNDERTIE",
    "aFLOWER PUNCTUATION MARKaTHREE DOT PUNCTUATIONaQUADRUPLE PRIMEaFOUR DOT PUNCTUATIONaFIVEr",
    "aTWOraFOUR DOT MARKaDOTTED CROSSaTRICOLONaVERTICAL FOUR DOTSaMEDIUM MATHEMATICAL SPACE",
    "aWORD JOINERaFUNCTION APPLICATIONaINVISIBLE TIMESbSEPARATORbPLUS"]⟩,
  ⟨0x2066, [
    "aLEFT-TO-RIGHT ISOLATEaRIGHT-TO-LEFTqaFIRST STRONGqaPOP DIRECTIONALq",
    "aINHIBIT SYMMETRIC SWAPPINGaACTIVATEraINHIBIT ARABIC FORM SHAPINGaACTIVATEs",
    "aNATIONAL DIGIT SHAPESaNOMINALraSUPERSCRIPT ZERObLATIN SMALL LETTER I"]⟩,
  ⟨0x2074, [
    "aSUPERSCRIPT FOURbFIVEbSIXbSEVENbEIGHTbNINEbPLUS SIGNbMINUSbEQUALS SIGNbLEFT PARENTHESIS",
    "bRIGHTqbLATIN SMALL LETTER NaSUBSCRIPT ZERObONEbTWObTHREEbFOURbFIVEbSIXbSEVENbEIGHTbNINE",
    "bPLUS SIGNbMINUSbEQUALS SIGNbLEFT PARENTHESISbRIGHTq"]⟩,
  ⟨0x2090, ["aLATIN SUBSCRIPT SMALL LETTER AeEeOeXeSCHWAeHeKeLeMeNePeSeT"]⟩,
  ⟨0x20a0, [
    "aEURO-CURRENCY SIGNaCOLONqaCRUZEIROqaFRENCH FRANCqaLIRAqaMILLqaNAIRAqaPESETAqaRUPEEqaWONq",
    "aNEW SHEQELqaDONGqaEUROqaKIPqaTUGRIKqaDRACHMAqaGERMAN PENNYqaPESOqaGUARANIqaAUSTRALq",
    "aHRYVNIAqaCEDIqaLIVRE TOURNOISqaSPESMILOqaTENGEqaINDIAN RUPEEqaTURKISH LIRAqaNORDIC MARKq",
    "aMANATqaRUBLEqaLARIqaBITCOINqaSOMq"]⟩,
  ⟨0x20d0, [
    "aCOMBINING LEFT HARPOON ABOVEbRIGHTrbLONG VERTICAL LINE OVERLAYbSHORTs",
    "bANTICLOCKWISE ARROW ABOVEbCLOCKWISErbLEFTrbRIGHTrbRING OVERLAYbCLOCKWISErbANTICLOCKWISEr",
    "bTHREE DOTS ABOVEbFOURrbENCLOSING CIRCLEcSQUAREcDIAMONDcCIRCLE BACKSLASH",
    "bLEFT RIGHT ARROW ABOVEbENCLOSING SCREENcKEYCAPcUPWARD POINTING TRIANGLE",
    "bREVERSE SOLIDUS OVERLAYbDOUBLE VERTICAL STROKEqbANNUITY SYMBOLbTRIPLE UNDERDOT",
    "bWIDE BRIDGE ABOVEbLEFTWARDS ARROW OVERLAYbLONG DOUBLE SOLIDUSq",
    "bRIGHTWARDS HARPOON WITH BARB DOWNWARDSbLEFTWARDStbLEFT ARROW BELOWbRIGHTrbASTERISK ABOVE"]⟩,
  ⟨0x2100, [
    "aACCOUNT OFaADDRESSED TO THE SUBJECTaDOUBLE-STRUCK CAPITAL CaDEGREE CELSIUS",
    "aCENTRE LINE SYMBOLaCARE OFaCADA UNAaEULER CONSTANTaSCRUPLEaDEGREE FAHRENHEIT",
    "aSCRIPT SMALL GbCAPITAL HaBLACK-LETTERraDOUBLE-STRUCKraPLANCK CONSTANTcOVER TWO PI",
    "aSCRIPT CAPITAL IaBLACK-LETTERraSCRIPT CAPITAL LbSMALLqaL B BAR SYMBOL",
    "aDOUBLE-STRUCK CAPITAL NaNUMERO SIGNaSOUND RECORDING COPYRIGHTaSCRIPT CAPITAL P",
    "aDOUBLE-STRUCKrcQaSCRIPT CAPITAL RaBLACK-LETTERraDOUBLE-STRUCKraPRESCRIPTION TAKEaRESPONSE",
    "aSERVICE MARKaTELEPHONE SIGNaTRADE MARKqaVERSICLEaDOUBLE-STRUCK CAPITAL ZaOUNCE SIGNaOHMq",
    "aINVERTEDraBLACK-LETTER CAPITAL ZaTURNED GREEK SMALL LETTER IOTAaKELVIN SIGNaANGSTROMq",
    "aSCRIPT CAPITAL BaBLACK-LETTER CAPITAL CaESTIMATED SYMBOLaSCRIPT SMALL EbCAPITALqcFaTURNEDr",
    "aSCRIPT CAPITAL MbSMALL OaALEF SYMBOLaBETqaGIMELqaDALETqaINFORMATION SOURCE",
    "aROTATED CAPITAL QaFACSIMILE SIGNaDOUBLE-STRUCK SMALL PIcGAMMAbCAPITALqcPIbN-ARY SUMMATION",
    "aTURNED SANS-SERIF CAPITAL GdLaREVERSEDsaTURNED SANS-SERIF CAPITAL Y",
    "aDOUBLE-STRUCK ITALIC CAPITAL DcSMALLqdEdIdJaPROPERTY LINEaTURNED AMPERSANDaPER SIGN",
    "aAKTIESELSKABaTURNED SMALL FaSYMBOL FOR SAMARITAN SOURCEaVULGAR FRACTION ONE SEVENTHdNINTH",
    "dTENTHdTHIRDcTWO THIRDScONE FIFTHcTWO FIFTHScTHREEqcFOURqcONE SIXTHcFIVE SIXTHScONE EIGHTH",
    "cTHREE EIGHTHScFIVEqcSEVENqaFRACTION NUMERATOR ONEaROMAN NUMERALqcTWOcTHREEcFOURcFIVEcSIX",
    "cSEVENcEIGHTcNINEcTENcELEVENcTWELVEcFIFTYcONE HUNDREDcFIVEqcONE THOUSAND",
    "aSMALL ROMAN NUMERAL ONEdTWOdTHREEdFOURdFIVEdSIXdSEVENdEIGHTdNINEdTENdELEVENdTWELVEdFIFTY",
    "dONE HUNDREDdFIVEqdONE THOUSANDaROMAN NUMERAL ONE THOUSAND C DcFIVE THOUSANDcTENq",
    "cREVERSED ONE HUNDREDaLATIN SMALL LETTER REVERSED CaROMAN NUMERAL SIX LATE FORM",
    "cFIFTY EARLYqdTHOUSANDcONE HUNDREDqaVULGAR FRACTION ZERO THIRDSaTURNED DIGIT TWOcTHREE"]⟩,
  ⟨0x2190, [
    "aLEFTWARDS ARROWaUPWARDSqaRIGHTWARDSqaDOWNWARDSqaLEFT RIGHTqaUP DOWNqaNORTH WESTqbEASTq",
    "aSOUTHrbWESTqaLEFTWARDS ARROW WITH STROKEaRIGHTWARDSsaLEFTWARDS WAVE ARROWaRIGHTWARDSr",
    "aLEFTWARDS TWO HEADEDqaUPWARDSsaRIGHTWARDSsaDOWNWARDSsaLEFTWARDS ARROW WITH TAIL",
    "aRIGHTWARDSsaLEFTWARDS ARROW FROM BARaUPWARDSsaRIGHTWARDSsaDOWNWARDSs",
    "aUP DOWN ARROW WITH BASEaLEFTWARDS ARROW WITH HOOKaRIGHTWARDSsaLEFTWARDS ARROW WITH LOOP",
    "aRIGHTWARDSsaLEFT RIGHT WAVE ARROWcARROW WITH STROKEaDOWNWARDS ZIGZAG ARROW",
    "aUPWARDS ARROW WITH TIP LEFTWARDSeRIGHTWARDSaDOWNWARDS ARROW WITH TIP LEFTWARDSeRIGHTWARDS",
    "aRIGHTWARDS ARROW WITH CORNER DOWNWARDSaDOWNWARDS ARROW WITH CORNER LEFTWARDS",
    "aANTICLOCKWISE TOP SEMICIRCLE ARROWaCLOCKWISEsaNORTH WEST ARROW TO LONG BAR",
    "aLEFTWARDS ARROW TO BAR OVER RIGHTWARDS ARROW TOqaANTICLOCKWISE OPEN CIRCLE ARROW",
    "aCLOCKWISEsaLEFTWARDS HARPOON WITH BARB UPWARDSeDOWNWARDS",
    "aUPWARDS HARPOON WITH BARB RIGHTWARDSeLEFTWARDSaRIGHTWARDS HARPOON WITH BARB UPWARDS",
    "eDOWNWARDSaDOWNWARDS HARPOON WITH BARB RIGHTWARDSeLEFTWARDS",
    "aRIGHTWARDS ARROW OVER LEFTWARDS ARROWaUPWARDS ARROW LEFTWARDS OF DOWNWARDSq",
    "aLEFTWARDS ARROW OVER RIGHTWARDSqbPAIRED ARROWSaUPWARDSraRIGHTWARDSraDOWNWARDSr",
    "aLEFTWARDS HARPOON OVER RIGHTWARDS HARPOONaRIGHTWARDS HARPOON OVER LEFTWARDSq",
    "aLEFTWARDS DOUBLE ARROW WITH STROKEaLEFT RIGHTtaRIGHTWARDStaLEFTWARDS DOUBLE ARROWaUPWARDSr",
    "aRIGHTWARDSraDOWNWARDSraLEFT RIGHTraUP DOWNraNORTH WESTrbEASTraSOUTHsbWESTr",
    "aLEFTWARDS TRIPLEqaRIGHTWARDSraLEFTWARDS SQUIGGLEqaRIGHTWARDSr",
    "aUPWARDS ARROW WITH DOUBLE STROKEaDOWNWARDStaLEFTWARDS DASHED ARROWaUPWARDSraRIGHTWARDSr",
    "aDOWNWARDSraLEFTWARDS ARROW TO BARaRIGHTWARDSsaLEFTWARDS WHITE ARROWaUPWARDSraRIGHTWARDSr",
    "aDOWNWARDSraUPWARDS WHITE ARROW FROM BARdON PEDESTALfWITH HORIZONTAL BARgVERTICALq",
    "cDOUBLE ARROWeON PEDESTALaRIGHTWARDS WHITE ARROW FROM WALLaNORTH WEST ARROW TO CORNER",
    "aSOUTH EASTsaUP DOWN WHITE ARROWaRIGHT ARROW WITH SMALL CIRCLE",
    "aDOWNWARDS ARROW LEFTWARDS OF UPWARDS ARROWaTHREE RIGHTWARDS ARROWS",
    "aLEFTWARDS ARROW WITH VERTICAL STROKEaRIGHTWARDStaLEFT RIGHTtaLEFTWARDS ARROW WITH DOUBLEr",
    "aRIGHTWARDSuaLEFT RIGHTuaLEFTWARDS OPEN-HEADED ARROWaRIGHTWARDSraLEFT RIGHTraFOR ALL",
    "aCOMPLEMENTaPARTIAL DIFFERENTIALaTHERE EXISTSbDOES NOT EXISTaEMPTY SETaINCREMENTaNABLA",
    "aELEMENT OFaNOT ANraSMALLraCONTAINS AS MEMBERaDOES NOT CONTAINraSMALL CONTAINSr",
    "aEND OF PROOFaN-ARY PRODUCTbCOPRODUCTbSUMMATIONaMINUS SIGNaMINUS-OR-PLUSqaDOT PLUS",
    "aDIVISION SLASHaSET MINUSaASTERISK OPERATORaRINGqaBULLETqaSQUARE ROOTaCUBEqaFOURTHq",
    "aPROPORTIONAL TOaINFINITYaRIGHT ANGLEaqaMEASUREDqaSPHERICALqaDIVIDESaDOES NOT DIVIDE",
    "aPARALLEL TOaNOTraLOGICAL ANDbORaINTERSECTIONaUNIONaINTEGRALaDOUBLEqaTRIPLEqaCONTOURq",
    "aSURFACEqaVOLUMEqaCLOCKWISEqbCONTOURqaANTICLOCKWISEraTHEREFOREaBECAUSEaRATIOaPROPORTION",
    "aDOT MINUSaEXCESSaGEOMETRIC PROPORTIONaHOMOTHETICaTILDE OPERATORaREVERSED TILDE",
    "aINVERTED LAZY SaSINE WAVEaWREATH PRODUCTaNOT TILDEaMINUSqaASYMPTOTICALLY EQUAL TOaNOTs",
    "aAPPROXIMATELYrbBUT NOT ACTUALLYraNEITHER APPROXIMATELY NORsaALMOSTraNOTsaALMOST EQUAL ORr",
    "aTRIPLE TILDEaALL EQUAL TOaEQUIVALENTqaGEOMETRICALLYraDIFFERENCE BETWEEN",
    "aAPPROACHES THE LIMITaGEOMETRICALLY EQUAL TOaAPPROXIMATELY EQUAL TO OR THE IMAGE OF",
    "aIMAGE OF OR APPROXIMATELY EQUAL TOaCOLON EQUALSaEQUALS COLONaRING IN EQUAL TObr",
    "aCORRESPONDSqaESTIMATESaEQUIANGULAR TOaSTAR EQUALSaDELTA EQUAL TOaEQUAL TO BY DEFINITION",
    "aMEASURED BYaQUESTIONED EQUAL TOaNOTraIDENTICALqaNOTraSTRICTLY EQUIVALENTq",
    "aLESS-THAN OR EQUALqaGREATER-THANsaLESS-THAN OVERraGREATER-THANsaLESS-THAN BUT NOTr",
    "aGREATER-THANtaMUCH LESS-THANbGREATER-THANaBETWEENaNOT EQUIVALENT TObLESS-THANbGREATER-THAN",
    "aNEITHER LESS-THAN NOR EQUAL TObGREATER-THANsaLESS-THAN OR EQUIVALENTqaGREATER-THANs",
    "aNEITHER LESS-THAN NORrbGREATER-THANsaLESS-THAN OR GREATER-THANaGREATER-THAN OR LESS-THAN",
    "aNEITHER LESS-THAN NOR GREATER-THANbGREATER-THAN NOR LESS-THANaPRECEDESaSUCCEEDS",
    "aPRECEDES OR EQUAL TOaSUCCEEDSsaPRECEDES OR EQUIVALENTqaSUCCEEDSsaDOES NOT PRECEDEcSUCCEED",
    "aSUBSET OFaSUPERSETqaNOT A SUBSETqcSUPERSETqaSUBSET OF OR EQUAL TOaSUPERSETt",
    "aNEITHER A SUBSET OF NORrcSUPERSETtaSUBSET OF WITH NOTraSUPERSETuaMULTISETbMULTIPLICATION",
    "bUNIONaSQUARE IMAGE OFbORIGINALqbIMAGE OF OR EQUAL TObORIGINALtbCAPbCUPaCIRCLED PLUSbMINUS",
    "bTIMESbDIVISION SLASHbDOT OPERATORbRINGqbASTERISKqbEQUALSbDASHaSQUARED PLUSbMINUSbTIMES",
    "bDOT OPERATORaRIGHT TACKaLEFTqaDOWNqaUPqaASSERTIONaMODELSaTRUEaFORCES",
    "aTRIPLE VERTICAL BAR RIGHT TURNSTILEaDOUBLE VERTICAL BAR DOUBLEraDOES NOT PROVEaNOT TRUE",
    "aDOES NOT FORCEaNEGATED DOUBLE VERTICAL BAR DOUBLE RIGHT TURNSTILEaPRECEDES UNDER RELATION",
    "aSUCCEEDSraNORMAL SUBGROUP OFaCONTAINS AS NORMAL SUBGROUPaNORMAL SUBGROUP OF OR EQUAL TO",
    "aCONTAINS AS NORMAL SUBGROUPsaORIGINAL OFaIMAGEqaMULTIMAPaHERMITIAN CONJUGATE MATRIX",
    "aINTERCALATEaXORaNANDaNORaRIGHT ANGLE WITH ARCbTRIANGLEaN-ARY LOGICAL ANDcORbINTERSECTION",
    "bUNIONaDIAMOND OPERATORaDOTqaSTARqaDIVISION TIMESaBOWTIE",
    "aLEFT NORMAL FACTOR SEMIDIRECT PRODUCTaRIGHTtaLEFTraRIGHTraREVERSED TILDE EQUALS",
    "aCURLY LOGICAL ORcANDaDOUBLE SUBSETbSUPERSETbINTERSECTIONbUNIONaPITCHFORK",
    "aEQUAL AND PARALLEL TOaLESS-THAN WITH DOTaGREATER-THANraVERY MUCH LESS-THANcGREATER-THAN",
    "aLESS-THAN EQUAL TO ORqaGREATER-THAN EQUAL TO OR LESS-THANatdGREATER-THANdPRECEDESdSUCCEEDS",
    "aDOES NOT PRECEDE OR EQUALcSUCCEEDraNOT SQUARE IMAGE OF OR EQUAL TOcORIGINALt",
    "aSQUARE IMAGE OF OR NOTrbORIGINALuaLESS-THAN BUT NOT EQUIVALENTqaGREATER-THANtaPRECEDESt",
    "aSUCCEEDStaNOT NORMAL SUBGROUP OFaDOES NOT CONTAIN AS NORMAL SUBGROUP",
    "aNOT NORMAL SUBGROUP OF OR EQUAL TOaDOES NOT CONTAIN AS NORMAL SUBGROUP OR EQUAL",
    "aVERTICAL ELLIPSISaMIDLINE HORIZONTALqaUP RIGHT DIAGONALqaDOWNs",
    "aELEMENT OF WITH LONG HORIZONTAL STROKEdVERTICAL BAR AT END OFraSMALLz",
    "aELEMENT OF WITH DOT ABOVEdOVERBARaSMALLtaELEMENT OF WITH UNDERBARdTWO HORIZONTAL STROKES",
    "aCONTAINS WITH LONG HORIZONTAL STROKEcVERTICAL BAR AT END OFraSMALLyaCONTAINS WITH OVERBAR",
    "aSMALLsaZ NOTATION BAG MEMBERSHIPaDIAMETER SIGNaELECTRIC ARROWaHOUSEaUP ARROWHEADaDOWNq",
    "aPROJECTIVEaPERSPECTIVEaWAVY LINEaLEFT CEILINGaRIGHTqaLEFT FLOORaRIGHTqaBOTTOM RIGHT CROP",
    "bLEFTqaTOP RIGHTqbLEFTqaREVERSED NOT SIGNaSQUARE LOZENGEaARCaSEGMENTaSECTOR",
    "aTELEPHONE RECORDERaPOSITION INDICATORaVIEWDATA SQUAREaPLACE OF INTEREST SIGNaTURNED NOTq",
    "aWATCHaHOURGLASSaTOP LEFT CORNERbRIGHTqaBOTTOM LEFTqbRIGHTqaTOP HALF INTEGRALaBOTTOMraFROWN",
    "aSMILEaUP ARROWHEAD BETWEEN TWO HORIZONTAL BARSaOPTION KEYaERASE TO THE RIGHT",
    "aX IN A RECTANGLE BOXaKEYBOARDaLEFT-POINTING ANGLE BRACKETaRIGHT-POINTINGr",
    "aERASE TO THE LEFTaBENZENE RINGaCYLINDRICITYaALL AROUND-PROFILEaSYMMETRYaTOTAL RUNOUT",
    "aDIMENSION ORIGINaCONICAL TAPERaSLOPEaCOUNTERBOREaCOUNTERSINKaAPL FUNCTIONAL SYMBOL I-BEAM",
    "dSQUISH QUADdQUAD EQUALeDIVIDEeDIAMONDeJOTeCIRCLEdCIRCLE STILEeJOTdSLASH BARdBACKSLASHq",
    "dQUAD SLASHeBACKSLASHeLESS-THANeGREATER-THANdLEFTWARDS VANEdRIGHTWARDSq",
    "dQUAD LEFTWARDS ARROWeRIGHTWARDSqdCIRCLE BACKSLASHdDOWN TACK UNDERBARdDELTA STILE",
    "dQUAD DOWN CARETeDELTAdDOWN TACK JOTdUPWARDS VANEdQUAD UPWARDS ARROWdUP TACK OVERBAR",
    "dDEL STILEdQUAD UP CARETeDELdUP TACK JOTdDOWNWARDS VANEdQUAD DOWNWARDS ARROWdQUOTE UNDERBAR",
    "dDELTAqdDIAMONDqdJOTqdCIRCLEqdUP SHOE JOTdQUOTE QUADdCIRCLE STARdQUAD COLON",
    "dUP TACK DIAERESISdDELqdSTARqdJOTqdCIRCLEqdDOWN SHOE STILEdLEFTrdTILDE DIAERESIS",
    "dGREATER-THANqdCOMMA BARdDEL TILDEdZILDEdSTILE TILDEdSEMICOLON UNDERBARdQUAD NOT EQUAL",
    "eQUESTIONdDOWN CARET TILDEdUPrdIOTAdRHOdOMEGAdALPHA UNDERBARdEPSILONqdIOTAqdOMEGAqdALPHA",
    "aNOT CHECK MARKaRIGHT ANGLE WITH DOWNWARDS ZIGZAG ARROWaSHOULDERED OPEN BOXaBELL SYMBOL",
    "aVERTICAL LINE WITH MIDDLE DOTaINSERTION SYMBOLaCONTINUOUS UNDERLINEqaDISCONTINUOUSr",
    "aEMPHASISqaCOMPOSITIONqaWHITE SQUARE WITH CENTRE VERTICAL LINEaENTER SYMBOL",
    "aALTERNATIVE KEYqaHELMqaCIRCLED HORIZONTAL BAR WITH NOTCHbTRIANGLE DOWN",
    "aBROKEN CIRCLE WITH NORTHWEST ARROWaUNDO SYMBOLaMONOSTABLEqaHYSTERESISq",
    "aOPEN-CIRCUIT-OUTPUT H-TYPEqbL-TYPEqaPASSIVE-PULL-DOWN-OUTPUTqaPASSIVE-PULL-UP-OUTPUTq",
    "aDIRECT CURRENT SYMBOL FORM TWOaSOFTWARE-FUNCTION SYMBOLaAPL FUNCTIONAL SYMBOL QUAD",
    "aDECIMAL SEPARATOR KEY SYMBOLaPREVIOUS PAGEaNEXTqaPRINT SCREEN SYMBOLaCLEARr",
    "aLEFT PARENTHESIS UPPER HOOKcEXTENSIONcLOWER HOOKaRIGHT PARENTHESIS UPPERqcEXTENSION",
    "cLOWER HOOKaLEFT SQUARE BRACKET UPPER CORNERdEXTENSIONdLOWER CORNER",
    "aRIGHT SQUARE BRACKET UPPERqdEXTENSIONdLOWER CORNERaLEFT CURLY BRACKET UPPER HOOK",
    "dMIDDLE PIECEdLOWER HOOKaCURLY BRACKET EXTENSIONaRIGHT CURLY BRACKET UPPER HOOK",
    "dMIDDLE PIECEdLOWER HOOKaINTEGRAL EXTENSIONaHORIZONTAL LINEq",
    "aUPPER LEFT OR LOWER RIGHT CURLY BRACKET SECTIONbRIGHT OR LOWER LEFTsaSUMMATION TOPbBOTTOM",
    "aTOP SQUARE BRACKETaBOTTOMrdOVER TOP SQUARE BRACKETaRADICAL SYMBOL BOTTOM",
    "aLEFT VERTICAL BOX LINEaRIGHTsaHORIZONTAL SCAN LINE-1cLINE-3cLINE-7cLINE-9",
    "aDENTISTRY SYMBOL LIGHT VERTICAL AND TOP RIGHTfBOTTOMqeWITH CIRCLEdDOWN AND HORIZONTALrdUPt",
    "dVERTICAL WITH TRIANGLEdDOWN AND HORIZONTALrdUPtdVERTICAL AND WAVE",
    "dDOWN AND HORIZONTAL WITHqdUPtdDOWN AND HORIZONTALdUPrdVERTICAL AND TOP LEFTfBOTTOMq",
    "aSQUARE FOOTaRETURN SYMBOLaEJECTqaVERTICAL LINE EXTENSIONaMETRICAL BREVEbLONG OVER SHORT",
    "bSHORT OVER LONGbLONG OVER TWO SHORTSbTWO SHORTS OVER LONGdJOINEDbTRISEMEbTETRASEME",
    "bPENTASEMEaEARTH GROUNDaFUSEaTOP PARENTHESISaBOTTOMqaTOP CURLY BRACKETaBOTTOMr",
    "aTOP TORTOISE SHELLqaBOTTOMsaWHITE TRAPEZIUMaBENZENE RING WITH CIRCLEaSTRAIGHTNESSaFLATNESS",
    "aAC CURRENTaELECTRICAL INTERSECTIONaDECIMAL EXPONENT SYMBOL",
    "aBLACK RIGHT-POINTING DOUBLE TRIANGLEbLEFT-POINTINGrbUP-POINTINGrbDOWN-POINTINGr",
    "bRIGHT-POINTING DOUBLE TRIANGLE WITH VERTICAL BARbLEFT-POINTINGu",
    "bRIGHT-POINTING TRIANGLE WITH DOUBLEraALARM CLOCKaSTOPWATCHaTIMER CLOCK",
    "aHOURGLASS WITH FLOWING SANDaBLACK MEDIUM LEFT-POINTING TRIANGLEcRIGHT-POINTINGq",
    "cUP-POINTINGqcDOWN-POINTINGqaDOUBLE VERTICAL BARaBLACK SQUARE FOR STOPbCIRCLE FOR RECORD",
    "aPOWER SYMBOLbON-OFFqbONqbSLEEPqaOBSERVER EYEqaSYMBOL FOR NULLcSTART OF HEADINGeTEXTcENDr",
    "eTRANSMISSIONcENQUIRYcACKNOWLEDGEcBELLcBACKSPACEcHORIZONTAL TABULATIONcLINE FEED",
    "cVERTICAL TABULATIONcFORM FEEDcCARRIAGE RETURNcSHIFT OUTdINcDATA LINK ESCAPE",
    "cDEVICE CONTROL ONEeTWOeTHREEeFOURcNEGATIVE ACKNOWLEDGEcSYNCHRONOUS IDLE",
    "cEND OF TRANSMISSION BLOCKcCANCELcEND OF MEDIUMcSUBSTITUTEcESCAPEcFILE SEPARATORcGROUPq",
    "cRECORDqcUNITqcSPACEcDELETEaBLANK SYMBOLaOPEN BOXaSYMBOL FOR NEWLINEcDELETE FORM TWO",
    "cSUBSTITUTEr"]⟩,
  ⟨0x2440, [
    "aOCR HOOKbCHAIRbFORKbINVERTEDqbBELT BUCKLEbBOW TIEbBRANCH BANK IDENTIFICATION",
    "bAMOUNT OF CHECKbDASHbCUSTOMER ACCOUNT NUMBERbDOUBLE BACKSLASH"]⟩,
  ⟨0x2460, [
    "aCIRCLED DIGIT ONEcTWOcTHREEcFOURcFIVEcSIXcSEVENcEIGHTcNINEbNUMBER TENcELEVENcTWELVE",
    "cTHIRTEENcFOURTEENcFIFTEENcSIXTEENcSEVENTEENcEIGHTEENcNINETEENcTWENTY",
    "aPARENTHESIZED DIGIT ONEcTWOcTHREEcFOURcFIVEcSIXcSEVENcEIGHTcNINEbNUMBER TENcELEVENcTWELVE",
    "cTHIRTEENcFOURTEENcFIFTEENcSIXTEENcSEVENTEENcEIGHTEENcNINETEENcTWENTYaDIGIT ONE FULL STOP",
    "bTWOrbTHREErbFOURrbFIVErbSIXrbSEVENrbEIGHTrbNINEraNUMBER TENrbELEVENrbTWELVErbTHIRTEENr",
    "bFOURTEENrbFIFTEENrbSIXTEENrbSEVENTEENrbEIGHTEENrbNINETEENrbTWENTYr",
    "aPARENTHESIZED LATIN SMALL LETTER AeBeCeDeEeFeGeHeIeJeKeLeMeNeOePeQeReSeTeUeVeWeXeYeZ",
    "aCIRCLED LATIN CAPITAL LETTER AeBeCeDeEeFeGeHeIeJeKeLeMeNeOePeQeReSeTeUeVeWeXeYeZ",
    "cSMALL LETTER AeBeCeDeEeFeGeHeIeJeKeLeMeNeOePeQeReSeTeUeVeWeXeYeZbDIGIT ZERO",
    "aNEGATIVE CIRCLED NUMBER ELEVENdTWELVEdTHIRTEENdFOURTEENdFIFTEENdSIXTEENdSEVENTEENdEIGHTEEN",
    "dNINETEENdTWENTYaDOUBLE CIRCLED DIGIT ONEdTWOdTHREEdFOURdFIVEdSIXdSEVENdEIGHTdNINE",
    "cNUMBER TENaNEGATIVE CIRCLED DIGIT ZEROaBOX DRAWINGS LIGHT HORIZONTALcHEAVYqcLIGHT VERTICAL",
    "cHEAVYqcLIGHT TRIPLE DASH HORIZONTALcHEAVYscLIGHT TRIPLE DASH VERTICALcHEAVYs",
    "cLIGHT QUADRUPLE DASH HORIZONTALcHEAVYscLIGHT QUADRUPLE DASH VERTICALcHEAVYs",
    "cLIGHT DOWN AND RIGHTcDOWN LIGHT AND RIGHT HEAVYdHEAVY AND RIGHT LIGHTcHEAVY DOWN AND RIGHT",
    "cLIGHT DOWN AND LEFTcDOWN LIGHT AND LEFT HEAVYdHEAVY AND LEFT LIGHTcHEAVY DOWN AND LEFT",
    "cLIGHT UP AND RIGHTcUP LIGHT AND RIGHT HEAVYdHEAVY AND RIGHT LIGHTcHEAVY UP AND RIGHT",
    "cLIGHT UP AND LEFTcUP LIGHT AND LEFT HEAVYdHEAVY AND LEFT LIGHTcHEAVY UP AND LEFT",
    "cLIGHT VERTICAL AND RIGHTcVERTICAL LIGHT AND RIGHT HEAVYcUP HEAVY AND RIGHT DOWN LIGHT",
    "cDOWN HEAVY AND RIGHT UPqcVERTICAL HEAVY AND RIGHTqcDOWN LIGHT AND RIGHT UP HEAVY",
    "cUP LIGHT AND RIGHT DOWNqcHEAVY VERTICAL AND RIGHTcLIGHT VERTICAL AND LEFT",
    "cVERTICAL LIGHT AND LEFT HEAVYcUP HEAVY AND LEFT DOWN LIGHTcDOWN HEAVY AND LEFT UPq",
    "cVERTICAL HEAVY AND LEFTqcDOWN LIGHT AND LEFT UP HEAVYcUP LIGHT AND LEFT DOWNq",
    "cHEAVY VERTICAL AND LEFTcLIGHT DOWN AND HORIZONTALcLEFT HEAVY AND RIGHT DOWN LIGHT",
    "cRIGHT HEAVY AND LEFTrcDOWN LIGHT AND HORIZONTAL HEAVYdHEAVY AND HORIZONTAL LIGHT",
    "cRIGHT LIGHT AND LEFT DOWN HEAVYcLEFT LIGHT AND RIGHTrcHEAVY DOWN AND HORIZONTALcLIGHT UPr",
    "cLEFT HEAVY AND RIGHT UP LIGHTcRIGHT HEAVY AND LEFTrcUP LIGHT AND HORIZONTAL HEAVY",
    "dHEAVY AND HORIZONTAL LIGHTcRIGHT LIGHT AND LEFT UP HEAVYcLEFT LIGHT AND RIGHTr",
    "cHEAVY UP AND HORIZONTALcLIGHT VERTICALrcLEFT HEAVY AND RIGHT VERTICAL LIGHT",
    "cRIGHT HEAVY AND LEFTrcVERTICAL LIGHT AND HORIZONTAL HEAVY",
    "cUP HEAVY AND DOWN HORIZONTAL LIGHTcDOWN HEAVY AND UPrcVERTICAL HEAVY ANDr",
    "cLEFT UP HEAVY AND RIGHT DOWNqcRIGHT UP HEAVY AND LEFTrcLEFT DOWN HEAVY AND RIGHT UPq",
    "cRIGHT DOWN HEAVY AND LEFTrcDOWN LIGHT AND UP HORIZONTAL HEAVYcUP LIGHT AND DOWNr",
    "cRIGHT LIGHT AND LEFT VERTICALqcLEFT LIGHT AND RIGHTrcHEAVY VERTICAL AND HORIZONTAL",
    "cLIGHT DOUBLE DASHqcHEAVYscLIGHT DOUBLE DASH VERTICALcHEAVYscDOUBLE HORIZONTALdVERTICAL",
    "cDOWN SINGLE AND RIGHT DOUBLEdDOUBLE AND RIGHT SINGLEcDOUBLE DOWN AND RIGHT",
    "cDOWN SINGLE AND LEFT DOUBLEdDOUBLE AND LEFT SINGLEcDOUBLE DOWN AND LEFT",
    "cUP SINGLE AND RIGHT DOUBLEdDOUBLE AND RIGHT SINGLEcDOUBLE UP AND RIGHT",
    "cUP SINGLE AND LEFT DOUBLEdDOUBLE AND LEFT SINGLEcDOUBLE UP AND LEFT",
    "cVERTICAL SINGLE AND RIGHT DOUBLEdDOUBLE AND RIGHT SINGLEcDOUBLE VERTICAL AND RIGHT",
    "cVERTICAL SINGLE AND LEFT DOUBLEdDOUBLE AND LEFT SINGLEcDOUBLE VERTICAL AND LEFT",
    "cDOWN SINGLE AND HORIZONTAL DOUBLEdDOUBLE AND HORIZONTAL SINGLEcDOUBLE DOWN AND HORIZONTAL",
    "cUP SINGLE AND HORIZONTAL DOUBLEdDOUBLE AND HORIZONTAL SINGLEcDOUBLE UP AND HORIZONTAL",
    "cVERTICAL SINGLE AND HORIZONTAL DOUBLEdDOUBLE AND HORIZONTAL SINGLE",
    "cDOUBLE VERTICAL AND HORIZONTALcLIGHT ARC DOWN AND RIGHTgLEFTeUPrgRIGHT",
    "dDIAGONAL UPPER RIGHT TO LOWER LEFTfLEFT TO LOWER RIGHTeCROSSdLEFTdUPdRIGHTdDOWNcHEAVY LEFT",
    "dUPdRIGHTdDOWNcLIGHT LEFT AND HEAVY RIGHTdUP AND HEAVY DOWNcHEAVY LEFT AND LIGHT RIGHT",
    "dUP AND LIGHT DOWNaUPPER HALF BLOCKaLOWER ONE EIGHTHqcQUARTERqbTHREE EIGHTHSqbHALFq",
    "bFIVE EIGHTHSqbTHREE QUARTERSqbSEVEN EIGHTHSqaFULLqaLEFT SEVEN EIGHTHSqbTHREE QUARTERSq",
    "bFIVE EIGHTHSqbHALFqbTHREE EIGHTHSqbONE QUARTERqcEIGHTHqaRIGHT HALFqaLIGHT SHADEaMEDIUMq",
    "aDARKqaUPPER ONE EIGHTH BLOCKaRIGHTsaQUADRANT LOWER LEFTcRIGHTbUPPER LEFT",
    "dAND LOWER LEFT AND LOWER RIGHTfqeUPPER RIGHT AND LOWER LEFTiRIGHTcqdAND LOWER LEFT",
    "gAND LOWER RIGHTaBLACK SQUAREaWHITEqcWITH ROUNDED CORNERScCONTAINING BLACK SMALL SQUARE",
    "aSQUARE WITH HORIZONTAL FILLcVERTICALqcORTHOGONAL CROSSHATCHqcUPPER LEFT TO LOWER RIGHTq",
    "dRIGHT TO LOWER LEFTqcDIAGONAL CROSSHATCHqaBLACK SMALL SQUAREaWHITEraBLACK RECTANGLEaWHITEq",
    "aBLACK VERTICALqaWHITEraBLACK PARALLELOGRAMaWHITEqaBLACK UP-POINTING TRIANGLEaWHITEr",
    "aBLACK UP-POINTING SMALLqaWHITEsaBLACK RIGHT-POINTINGqaWHITEraBLACK RIGHT-POINTING SMALLq",
    "aWHITEsaBLACK RIGHT-POINTING POINTERaWHITEraBLACK DOWN-POINTING TRIANGLEaWHITEr",
    "aBLACK DOWN-POINTING SMALLqaWHITEsaBLACK LEFT-POINTINGqaWHITEraBLACK LEFT-POINTING SMALLq",
    "aWHITEsaBLACK LEFT-POINTING POINTERaWHITEraBLACK DIAMONDaWHITEq",
    "cCONTAINING BLACK SMALL DIAMONDaFISHEYEaLOZENGEaWHITE CIRCLEaDOTTEDq",
    "aCIRCLE WITH VERTICAL FILLaBULLSEYEaBLACK CIRCLEaCIRCLE WITH LEFT HALF BLACKcRIGHTrcLOWERr",
    "cUPPERrdRIGHT QUADRANTqcALL BUT UPPER LEFTraLEFT HALF BLACK CIRCLEaRIGHTsaINVERSE BULLET",
    "bWHITE CIRCLEaUPPER HALFsaLOWERtaUPPER LEFT QUADRANT CIRCULAR ARCbRIGHTsaLOWERtbLEFTs",
    "aUPPER HALF CIRCLEaLOWERraBLACK LOWER RIGHT TRIANGLEcLEFTqbUPPERrcRIGHTqaWHITE BULLET",
    "aSQUARE WITH LEFT HALF BLACKcRIGHTrcUPPER LEFT DIAGONALrcLOWER RIGHTs",
    "aWHITE SQUARE WITH VERTICAL BISECTING LINEbUP-POINTING TRIANGLE WITH DOT",
    "aUP-POINTING TRIANGLE WITH LEFT HALF BLACKdRIGHTraLARGE CIRCLE",
    "aWHITE SQUARE WITH UPPER LEFT QUADRANTdLOWERreRIGHTqdUPPERrbCIRCLE WITH UPPER LEFTqdLOWERr",
    "eRIGHTqdUPPERraUPPER LEFT TRIANGLEbRIGHTqaLOWER LEFTqaWHITE MEDIUM SQUAREaBLACKr",
    "aWHITE MEDIUM SMALLqaBLACKsaLOWER RIGHT TRIANGLEaBLACK SUN WITH RAYSaCLOUDaUMBRELLAaSNOWMAN",
    "aCOMETaBLACK STARaWHITEqaLIGHTNINGaTHUNDERSTORMaSUNaASCENDING NODEaDESCENDINGqaCONJUNCTION",
    "aOPPOSITIONaBLACK TELEPHONEaWHITEqaBALLOT BOXcWITH CHECKdXaSALTIREaUMBRELLA WITH RAIN DROPS",
    "aHOT BEVERAGEaWHITE SHOGI PIECEaBLACKraSHAMROCKaREVERSED ROTATED FLORAL HEART BULLET",
    "aBLACK LEFT POINTING INDEXbRIGHTraWHITE LEFTrbUPrbRIGHTrbDOWNraSKULL AND CROSSBONES",
    "aCAUTION SIGNaRADIOACTIVEqaBIOHAZARDqaCADUCEUSaANKHaORTHODOX CROSSaCHI RHO",
    "aCROSS OF LORRAINEcJERUSALEMaSTAR AND CRESCENTaFARSI SYMBOLaADI SHAKTIaHAMMER AND SICKLE",
    "aPEACE SYMBOLaYIN YANGaTRIGRAM FOR HEAVENcLAKEcFIREcTHUNDERcWINDcWATERcMOUNTAINcEARTH",
    "aWHEEL OF DHARMAaWHITE FROWNING FACEbSMILINGqaBLACKraWHITE SUN WITH RAYSaFIRST QUARTER MOON",
    "aLASTraMERCURYaFEMALE SIGNaEARTHaMALE SIGNaJUPITERaSATURNaURANUSaNEPTUNEaPLUTOaARIESaTAURUS",
    "aGEMINIaCANCERaLEOaVIRGOaLIBRAaSCORPIUSaSAGITTARIUSaCAPRICORNaAQUARIUSaPISCES",
    "aWHITE CHESS KINGcQUEENcROOKcBISHOPcKNIGHTcPAWNaBLACK CHESS KINGcQUEENcROOKcBISHOPcKNIGHT",
    "cPAWNbSPADE SUITaWHITE HEARTqbDIAMONDqaBLACK CLUBqaWHITE SPADEqaBLACK HEARTqbDIAMONDq",
    "aWHITE CLUBqaHOT SPRINGSaQUARTER NOTEaEIGHTHqaBEAMED EIGHTH NOTESbSIXTEENTHq",
    "aMUSIC FLAT SIGNbNATURALqbSHARPqaWEST SYRIAC CROSSaEASTraUNIVERSAL RECYCLING SYMBOL",
    "aRECYCLING SYMBOL FOR TYPE-1 PLASTICSdTYPE-2qdTYPE-3qdTYPE-4qdTYPE-5qdTYPE-6qdTYPE-7q",
    "dGENERIC MATERIALSaBLACK UNIVERSAL RECYCLING SYMBOLaRECYCLED PAPERqaPARTIALLY-RECYCLEDr",
    "aPERMANENT PAPER SIGNaWHEELCHAIR SYMBOLaDIE FACE-1bFACE-2bFACE-3bFACE-4bFACE-5bFACE-6",
    "aWHITE CIRCLE WITH DOT RIGHTdTWO DOTSaBLACK CIRCLE WITH WHITE DOT RIGHTdTWO WHITE DOTS",
    "aMONOGRAM FOR YANGcYINaDIGRAM FOR GREATER YANGcLESSER YINdYANGcGREATER YINaWHITE FLAG",
    "aBLACKqaHAMMER AND PICKaANCHORaCROSSED SWORDSaSTAFF OF AESCULAPIUSaSCALESaALEMBICaFLOWER",
    "aGEARaSTAFF OF HERMESaATOM SYMBOLaFLEUR-DE-LISaOUTLINED WHITE STAR",
    "aTHREE LINES CONVERGING RIGHTdLEFTaWARNING SIGNaHIGH VOLTAGEqaDOUBLED FEMALEqbMALEq",
    "aINTERLOCKED FEMALE ANDraMALE AND FEMALEqbWITH STROKEqdAND MALE AND FEMALEq",
    "aVERTICAL MALE WITH STROKEqaHORIZONTALtaMEDIUM WHITE CIRCLEbBLACKqbSMALL WHITEq",
    "aMARRIAGE SYMBOLaDIVORCEqaUNMARRIED PARTNERSHIPqaCOFFINaFUNERAL URNaNEUTERaCERESaPALLAS",
    "aJUNOaVESTAaCHIRONaBLACK MOON LILITHaSEXTILEaSEMISEXTILEaQUINCUNXaSESQUIQUADRATE",
    "aSOCCER BALLaBASEBALLaSQUARED KEYaWHITE DRAUGHTS MANcKINGaBLACK DRAUGHTS MANcKING",
    "aSNOWMAN WITHOUT SNOWaSUN BEHIND CLOUDaRAINaBLACK SNOWMANaTHUNDER CLOUD AND RAIN",
    "aTURNED WHITE SHOGI PIECEbBLACKraWHITE DIAMOND IN SQUAREaCROSSING LANESaDISABLED CAR",
    "aOPHIUCHUSaPICKaCAR SLIDINGaHELMET WITH WHITE CROSSaCIRCLED CROSSING LANESaCHAINSaNO ENTRY",
    "aALTERNATE ONE-WAY LEFT WAY TRAFFICaBLACK TWO-WAYsaWHITEtaBLACK LEFT LANE MERGEaWHITEs",
    "aDRIVE SLOW SIGNaHEAVY WHITE DOWN-POINTING TRIANGLEaLEFT CLOSED ENTRYaSQUARED SALTIRE",
    "aFALLING DIAGONAL IN WHITE CIRCLE IN BLACK SQUAREaBLACK TRUCKaRESTRICTED LEFT ENTRY-1",
    "cENTRY-2aASTRONOMICAL SYMBOL FOR URANUSaHEAVY CIRCLE WITH STROKE AND TWO DOTS ABOVE",
    "aPENTAGRAMaRIGHT-HANDED INTERLACEDqaLEFT-HANDEDraINVERTEDqaBLACK CROSS ON SHIELD",
    "aSHINTO SHRINEaCHURCHaCASTLEaHISTORIC SITEaGEAR WITHOUT HUBbWITH HANDLES",
    "aMAP SYMBOL FOR LIGHTHOUSEaMOUNTAINaUMBRELLA ON GROUNDaFOUNTAINaFLAG IN HOLEaFERRYaSAILBOAT",
    "aSQUARE FOUR CORNERSaSKIERaICE SKATEaPERSON WITH BALLaTENTaJAPANESE BANK SYMBOL",
    "aHEADSTONE GRAVEYARDqaFUEL PUMPaCUP ON BLACK SQUARE",
    "aWHITE FLAG WITH HORIZONTAL MIDDLE BLACK STRIPEaBLACK SAFETY SCISSORSaUPPER BLADEqaBLACKq",
    "aLOWER BLADEqaWHITEqbHEAVY CHECK MARKaTELEPHONE LOCATION SIGNaTAPE DRIVEaAIRPLANEaENVELOPE",
    "aRAISED FISTbHANDaVICTORYqaWRITINGqaLOWER RIGHT PENCILaqaUPPER RIGHTqaWHITE NIBaBLACKq",
    "aCHECK MARKaHEAVYraMULTIPLICATION XaHEAVYraBALLOTqaHEAVYraOUTLINED GREEK CROSSaHEAVYr",
    "aOPEN CENTREqaHEAVYsaLATINqaSHADOWED WHITEraOUTLINEDraMALTESEqaSTAR OF DAVID",
    "aFOUR TEARDROP-SPOKED ASTERISKbBALLOON-SPOKEDqaHEAVYsaFOUR CLUB-SPOKEDq",
    "aBLACK FOUR POINTED STARaWHITEsaSPARKLESaSTRESS OUTLINED WHITE STARaCIRCLEDr",
    "aOPEN CENTRE BLACKqaBLACK CENTRE WHITEqaOUTLINED BLACKqaHEAVYsaPINWHEELqaSHADOWED WHITEq",
    "aHEAVY ASTERISKaOPEN CENTREqaEIGHT SPOKEDqbPOINTED BLACK STARcPINWHEELqaSIX POINTED BLACKq",
    "aEIGHT POINTED RECTILINEARraHEAVYuaTWELVE POINTEDraSIXTEEN POINTED ASTERISK",
    "aTEARDROP-SPOKEDqaOPEN CENTREraHEAVYraSIX PETALLED BLACK AND WHITE FLORETTEaBLACKqaWHITEq",
    "aEIGHT PETALLED OUTLINED BLACKqaCIRCLED OPEN CENTRE EIGHT POINTED STAR",
    "aHEAVY TEARDROP-SPOKED PINWHEEL ASTERISKaSNOWFLAKEaTIGHT TRIFOLIATEqaHEAVY CHEVRONqaSPARKLE",
    "aHEAVYqaBALLOON-SPOKED ASTERISKaEIGHT TEARDROP-SPOKED PROPELLERqaHEAVYtaCROSS MARK",
    "aSHADOWED WHITE CIRCLEaNEGATIVE SQUARED CROSS MARKaLOWER RIGHT DROP-SHADOWED WHITE SQUARE",
    "aUPPERtaLOWER RIGHT SHADOWEDraUPPERtaBLACK QUESTION MARK ORNAMENTaWHITEsbEXCLAMATIONr",
    "aBLACK DIAMOND MINUS WHITE XaHEAVY EXCLAMATION MARK SYMBOLaLIGHT VERTICAL BARaMEDIUMr",
    "aHEAVYrbSINGLE TURNED COMMA QUOTATION MARK ORNAMENTctbDOUBLE TURNEDtctbLOW SINGLEtcDOUBLEt",
    "aCURVED STEM PARAGRAPH SIGNqaHEAVY EXCLAMATION MARKqbHEARTsbBLACK HEART",
    "aROTATED HEAVY BLACK HEART BULLETaFLORAL HEARTaROTATED FLORAL HEART BULLET",
    "aMEDIUM LEFT PARENTHESIS ORNAMENTbRIGHTrbFLATTENED LEFTrcRIGHTr",
    "bLEFT-POINTING ANGLE BRACKETqbRIGHT-POINTINGsaHEAVY LEFT-POINTING ANGLE QUOTATION MARKq",
    "bRIGHT-POINTINGtbLEFT-POINTING ANGLE BRACKETqbRIGHT-POINTINGsaLIGHT LEFT TORTOISE SHELLr",
    "bRIGHTtaMEDIUM LEFT CURLYrbRIGHTsaDINGBAT NEGATIVE CIRCLED DIGIT ONEeTWOeTHREEeFOUReFIVE",
    "eSIXeSEVENeEIGHTeNINEdNUMBER TENbCIRCLED SANS-SERIF DIGIT ONEeTWOeTHREEeFOUReFIVEeSIXeSEVEN",
    "eEIGHTeNINEdNUMBER TENbNEGATIVE CIRCLED SANS-SERIF DIGIT ONEfTWOfTHREEfFOURfFIVEfSIXfSEVEN",
    "fEIGHTfNINEeNUMBER TENaHEAVY WIDE-HEADED RIGHTWARDS ARROWbPLUS SIGNbMINUSqbDIVISIONq",
    "bSOUTH EAST ARROWbRIGHTWARDSqbNORTH EASTqaDRAFTING POINT RIGHTWARDSqaHEAVY ROUND-TIPPEDr",
    "aTRIANGLE-HEADEDraHEAVYsaDASHEDsaHEAVYtaBLACKraTHREE-D TOP-LIGHTED RIGHTWARDS ARROWHEAD",
    "bBOTTOM-LIGHTEDraBLACKraHEAVY BLACK CURVED DOWNWARDS AND RIGHTWARDS ARROWdUPWARDSs",
    "aSQUAT BLACKraHEAVY CONCAVE-POINTEDsaRIGHT-SHADED WHITEraLEFT-SHADEDsaBACK-TILTED SHADOWEDs",
    "aFRONT-TILTEDtaHEAVY LOWER RIGHT-SHADOWEDsbUPPERtaNOTCHED LOWERtaCURLY LOOP",
    "aNOTCHED UPPER RIGHT-SHADOWED WHITE RIGHTWARDS ARROWaCIRCLED HEAVYsaWHITE-FEATHEREDr",
    "aBLACK-FEATHERED SOUTH EASTqbRIGHTWARDSqbNORTH EASTqaHEAVY BLACK-FEATHERED SOUTHr",
    "cRIGHTWARDSqcNORTH EASTqaTEARDROP-BARBED RIGHTWARDSqaHEAVY TEARDROP-SHANKEDraWEDGE-TAILEDr",
    "aHEAVYsaOPEN-OUTLINEDraDOUBLE CURLY LOOPaTHREE DIMENSIONAL ANGLE",
    "aWHITE TRIANGLE CONTAINING SMALL WHITE TRIANGLEaPERPENDICULARaOPEN SUBSETbSUPERSET",
    "aLEFT S-SHAPED BAG DELIMITERaRIGHTsaOR WITH DOT INSIDEaREVERSE SOLIDUS PRECEDING SUBSET",
    "aSUPERSET PRECEDING SOLIDUSaVERTICAL BAR WITH HORIZONTAL STROKE",
    "aMATHEMATICAL RISING DIAGONALaLONG DIVISIONaMATHEMATICAL FALLING DIAGONAL",
    "aSQUARED LOGICAL ANDcORaWHITE DIAMOND WITH CENTRED DOTaAND WITHqaELEMENT OF OPENING UPWARDS",
    "aLOWER RIGHT CORNER WITH DOTaUPPER LEFTsaLEFT OUTER JOINaRIGHTraFULLraLARGE UP TACKbDOWNq",
    "aLEFT AND RIGHT DOUBLE TURNSTILEdTACKbMULTIMAPaLONG RIGHT TACKbLEFTq",
    "aUP TACK WITH CIRCLE ABOVEaLOZENGE DIVIDED BY HORIZONTAL RULEaWHITE CONCAVE-SIDED DIAMOND",
    "dWITH LEFTWARDS TICKeRIGHTWARDSqbSQUARE WITH LEFTWARDSqdRIGHTWARDSq",
    "aMATHEMATICAL LEFT WHITE SQUARE BRACKETbRIGHTsbLEFT ANGLEqbRIGHTrbLEFT DOUBLErbRIGHTs",
    "bLEFT WHITE TORTOISE SHELLqbRIGHTtbLEFT FLATTENED PARENTHESISbRIGHTr",
    "aUPWARDS QUADRUPLE ARROWaDOWNWARDSraANTICLOCKWISE GAPPED CIRCLEqaCLOCKWISEs",
    "aRIGHT ARROW WITH CIRCLED PLUSaLONG LEFTWARDS ARROWbRIGHTWARDSqbLEFT RIGHTq",
    "bLEFTWARDS DOUBLEqbRIGHTWARDSrbLEFT RIGHTrbLEFTWARDS ARROW FROM BARbRIGHTWARDSs",
    "bLEFTWARDS DOUBLEsbRIGHTWARDStcSQUIGGLE ARROWaBRAILLE PATTERN BLANKcDOTS-1cDOTS-2cDOTS-12",
    "cDOTS-3cDOTS-13cDOTS-23cDOTS-123cDOTS-4cDOTS-14cDOTS-24cDOTS-124cDOTS-34cDOTS-134cDOTS-234",
    "cDOTS-1234cDOTS-5cDOTS-15cDOTS-25cDOTS-125cDOTS-35cDOTS-135cDOTS-235cDOTS-1235cDOTS-45",
    "cDOTS-145cDOTS-245cDOTS-1245cDOTS-345cDOTS-1345cDOTS-2345cDOTS-12345cDOTS-6cDOTS-16cDOTS-26",
    "cDOTS-126cDOTS-36cDOTS-136cDOTS-236cDOTS-1236cDOTS-46cDOTS-146cDOTS-246cDOTS-1246cDOTS-346",
    "cDOTS-1346cDOTS-2346cDOTS-12346cDOTS-56cDOTS-156cDOTS-256cDOTS-1256cDOTS-356cDOTS-1356",
    "cDOTS-2356cDOTS-12356cDOTS-456cDOTS-1456cDOTS-2456cDOTS-12456cDOTS-3456cDOTS-13456",
    "cDOTS-23456cDOTS-123456cDOTS-7cDOTS-17cDOTS-27cDOTS-127cDOTS-37cDOTS-137cDOTS-237cDOTS-1237",
    "cDOTS-47cDOTS-147cDOTS-247cDOTS-1247cDOTS-347cDOTS-1347cDOTS-2347cDOTS-12347cDOTS-57",
    "cDOTS-157cDOTS-257cDOTS-1257cDOTS-357cDOTS-1357cDOTS-2357cDOTS-12357cDOTS-457cDOTS-1457",
    "cDOTS-2457cDOTS-12457cDOTS-3457cDOTS-13457cDOTS-23457cDOTS-123457cDOTS-67cDOTS-167cDOTS-267",
    "cDOTS-1267cDOTS-367cDOTS-1367cDOTS-2367cDOTS-12367cDOTS-467cDOTS-1467cDOTS-2467cDOTS-12467",
    "cDOTS-3467cDOTS-13467cDOTS-23467cDOTS-123467cDOTS-567cDOTS-1567cDOTS-2567cDOTS-12567",
    "cDOTS-3567cDOTS-13567cDOTS-23567cDOTS-123567cDOTS-4567cDOTS-14567cDOTS-24567cDOTS-124567",
    "cDOTS-34567cDOTS-134567cDOTS-234567cDOTS-1234567cDOTS-8cDOTS-18cDOTS-28cDOTS-128cDOTS-38",
    "cDOTS-138cDOTS-238cDOTS-1238cDOTS-48cDOTS-148cDOTS-248cDOTS-1248cDOTS-348cDOTS-1348",
    "cDOTS-2348cDOTS-12348cDOTS-58cDOTS-158cDOTS-258cDOTS-1258cDOTS-358cDOTS-1358cDOTS-2358",
    "cDOTS-12358cDOTS-458cDOTS-1458cDOTS-2458cDOTS-12458cDOTS-3458cDOTS-13458cDOTS-23458",
    "cDOTS-123458cDOTS-68cDOTS-168cDOTS-268cDOTS-1268cDOTS-368cDOTS-1368cDOTS-2368cDOTS-12368",
    "cDOTS-468cDOTS-1468cDOTS-2468cDOTS-12468cDOTS-3468cDOTS-13468cDOTS-23468cDOTS-123468",
    "cDOTS-568cDOTS-1568cDOTS-2568cDOTS-12568cDOTS-3568cDOTS-13568cDOTS-23568cDOTS-123568",
    "cDOTS-4568cDOTS-14568cDOTS-24568cDOTS-124568cDOTS-34568cDOTS-134568cDOTS-234568",
    "cDOTS-1234568cDOTS-78cDOTS-178cDOTS-278cDOTS-1278cDOTS-378cDOTS-1378cDOTS-2378cDOTS-12378",
    "cDOTS-478cDOTS-1478cDOTS-2478cDOTS-12478cDOTS-3478cDOTS-13478cDOTS-23478cDOTS-123478",
    "cDOTS-578cDOTS-1578cDOTS-2578cDOTS-12578cDOTS-3578cDOTS-13578cDOTS-23578cDOTS-123578",
    "cDOTS-4578cDOTS-14578cDOTS-24578cDOTS-124578cDOTS-34578cDOTS-134578cDOTS-234578",
    "cDOTS-1234578cDOTS-678cDOTS-1678cDOTS-2678cDOTS-12678cDOTS-3678cDOTS-13678cDOTS-23678",
    "cDOTS-123678cDOTS-4678cDOTS-14678cDOTS-24678cDOTS-124678cDOTS-34678cDOTS-134678cDOTS-234678",
    "cDOTS-1234678cDOTS-5678cDOTS-15678cDOTS-25678cDOTS-125678cDOTS-35678cDOTS-135678",
    "cDOTS-235678cDOTS-1235678cDOTS-45678cDOTS-145678cDOTS-245678cDOTS-1245678cDOTS-345678",
    "cDOTS-1345678cDOTS-2345678cDOTS-12345678aRIGHTWARDS TWO-HEADED ARROW WITH VERTICAL STROKE",
    "eDOUBLEraLEFTWARDS DOUBLE ARROW WITHraRIGHTWARDSuaLEFT RIGHTu",
    "aRIGHTWARDS TWO-HEADED ARROW FROM BARaLEFTWARDS DOUBLEsaRIGHTWARDSt",
    "aDOWNWARDS ARROW WITH HORIZONTAL STROKEaUPWARDStbTRIPLE ARROWaDOWNWARDSr",
    "aLEFTWARDS DOUBLE DASHqaRIGHTWARDSsaLEFTWARDS TRIPLEraRIGHTWARDSsbTWO-HEADEDs",
    "bARROW WITH DOTTED STEMaUPWARDS ARROW TO BARaDOWNWARDSs",
    "aRIGHTWARDS ARROW WITH TAIL WITH VERTICAL STROKEfDOUBLErbTWO-HEADED ARROW WITH TAIL",
    "fWITH VERTICAL STROKEgDOUBLEraLEFTWARDS ARROW-TAILaRIGHTWARDSqaLEFTWARDS DOUBLEq",
    "aRIGHTWARDSraLEFTWARDS ARROW TO BLACK DIAMONDaRIGHTWARDStaLEFTWARDS ARROW FROM BARs",
    "aRIGHTWARDSvaNORTH WEST AND SOUTH EAST ARROWbEAST AND SOUTH WESTqbWEST ARROW WITH HOOK",
    "bEASTsaSOUTHtbWESTsaNORTH WEST ARROW AND NORTH EAST ARROWbEAST ARROW AND SOUTHr",
    "aSOUTH EAST ARROW AND SOUTH WESTqbWEST ARROW AND NORTHr",
    "aRISING DIAGONAL CROSSING FALLING DIAGONALaFALLING DIAGONAL CROSSING RISINGq",
    "aSOUTH EAST ARROW CROSSING NORTH EAST ARROWaNORTH EAST ARROW CROSSING SOUTHr",
    "aFALLING DIAGONAL CROSSING NORTHraRISING DIAGONAL CROSSING SOUTHr",
    "aNORTH EAST ARROW CROSSING NORTH WESTqbWEST ARROW CROSSING NORTH EASTq",
    "aWAVE ARROW POINTING DIRECTLY RIGHTaARROW POINTING RIGHTWARDS THEN CURVING UPWARDS",
    "fDOWNWARDScDOWNWARDS THEN CURVING LEFTWARDSfRIGHTWARDSaRIGHT-SIDE ARC CLOCKWISE ARROW",
    "aLEFT-SIDE ARC ANTICLOCKWISEqaTOPsaBOTTOMsaTOP ARC CLOCKWISE ARROW WITH MINUS",
    "cANTICLOCKWISE ARROW WITH PLUSaLOWER RIGHT SEMICIRCULAR CLOCKWISE ARROW",
    "bLEFT SEMICIRCULAR ANTICLOCKWISEqaANTICLOCKWISE CLOSED CIRCLEqaCLOCKWISEs",
    "aRIGHTWARDS ARROW ABOVE SHORT LEFTWARDSqaLEFTWARDS ARROW ABOVE SHORT RIGHTWARDSq",
    "aSHORT RIGHTWARDS ARROW ABOVE LEFTWARDSqaRIGHTWARDS ARROW WITH PLUS BELOWaLEFTWARDSt",
    "aRIGHTWARDS ARROW THROUGH XaLEFT RIGHT ARROW THROUGH SMALL CIRCLE",
    "aUPWARDS TWO-HEADED ARROW FROMraLEFT BARB UP RIGHT BARB DOWN HARPOONcDOWN RIGHT BARB UPq",
    "aUP BARB RIGHT DOWN BARB LEFTqcLEFT DOWN BARB RIGHTqaLEFT BARB UP RIGHT BARB UPq",
    "aUP BARB RIGHT DOWN BARB RIGHTqaLEFT BARB DOWN RIGHT BARB DOWNq",
    "aUP BARB LEFT DOWN BARB LEFTqaLEFTWARDS HARPOON WITH BARB UP TO BARaRIGHTWARDSv",
    "aUPWARDS HARPOON WITH BARB RIGHTraDOWNWARDSvaLEFTWARDS HARPOON WITH BARB DOWNraRIGHTWARDSv",
    "aUPWARDS HARPOON WITH BARB LEFTraDOWNWARDSvaLEFTWARDS HARPOON WITH BARB UP FROMq",
    "aRIGHTWARDSvaUPWARDS HARPOON WITH BARB RIGHTraDOWNWARDSvaLEFTWARDS HARPOON WITH BARB DOWNr",
    "aRIGHTWARDSvaUPWARDS HARPOON WITH BARB LEFTraDOWNWARDSv",
    "aLEFTWARDS HARPOON WITH BARB UP ABOVE LEFTWARDS HARPOON WITH BARB DOWN",
    "aUPWARDS HARPOON WITH BARB LEFT BESIDE UPWARDS HARPOON WITH BARB RIGHT",
    "aRIGHTWARDS HARPOON WITH BARB UP ABOVE RIGHTWARDS HARPOON WITH BARB DOWN",
    "aDOWNWARDS HARPOON WITH BARB LEFT BESIDE DOWNWARDS HARPOON WITH BARB RIGHT",
    "aLEFTWARDS HARPOON WITH BARB UP ABOVE RIGHTWARDS HARPOON WITH BARB UP",
    "eDOWN ABOVE RIGHTWARDS HARPOON WITH BARB DOWN",
    "aRIGHTWARDS HARPOON WITH BARB UP ABOVE LEFTWARDS HARPOON WITH BARB UP",
    "eDOWN ABOVE LEFTWARDS HARPOON WITH BARB DOWNaLEFTWARDS HARPOON WITH BARB UP ABOVE LONG DASH",
    "eDOWN BELOWraRIGHTWARDS HARPOON WITH BARB UP ABOVEreDOWN BELOWr",
    "aUPWARDS HARPOON WITH BARB LEFT BESIDE DOWNWARDS HARPOON WITH BARB RIGHT",
    "aDOWNWARDS HARPOON WITH BARB LEFT BESIDE UPWARDStaRIGHT DOUBLE ARROW WITH ROUNDED HEAD",
    "aEQUALS SIGN ABOVE RIGHTWARDS ARROWaTILDE OPERATORsaLEFTWARDS ARROW ABOVE TILDE OPERATOR",
    "aRIGHTWARDStdALMOST EQUAL TOaLESS-THAN ABOVE LEFTWARDS ARROW",
    "aLEFTWARDS ARROW THROUGH LESS-THANaGREATER-THAN ABOVE RIGHTWARDS ARROWaSUBSETs",
    "aLEFTWARDS ARROW THROUGH SUBSETaSUPERSET ABOVE LEFTWARDS ARROWaLEFT FISH TAILaRIGHTraUPr",
    "aDOWNraTRIPLE VERTICAL BAR DELIMITERaZ NOTATION SPOTcTYPE COLONaLEFT WHITE CURLY BRACKET",
    "aRIGHTsaLEFT WHITE PARENTHESISaRIGHTraZ NOTATION LEFT IMAGE BRACKETcRIGHTrcLEFT BINDINGq",
    "cRIGHTraLEFT SQUARE BRACKET WITH UNDERBARaRIGHTt",
    "aLEFT SQUARE BRACKET WITH TICK IN TOP CORNERaRIGHT SQUARE BRACKET WITH TICK IN BOTTOMq",
    "aLEFTwaRIGHT SQUARE BRACKET WITH TICK IN TOPqaLEFT ANGLE BRACKET WITH DOTaRIGHTt",
    "aLEFT ARC LESS-THAN BRACKETaRIGHT ARC GREATER-THANqaDOUBLE LEFTsbRIGHT ARC LESS-THANq",
    "aLEFT BLACK TORTOISE SHELLqaRIGHTtaDOTTED FENCEaVERTICAL ZIGZAG LINE",
    "aMEASURED ANGLE OPENING LEFTaRIGHT ANGLE VARIANT WITH SQUAREaMEASURED RIGHT ANGLE WITH DOT",
    "aANGLE WITH S INSIDEaACUTE ANGLEaSPHERICAL ANGLE OPENING LEFTdUPaTURNED ANGLEaREVERSEDq",
    "aANGLE WITH UNDERBARaREVERSEDsaOBLIQUE ANGLE OPENING UPdDOWN",
    "aMEASURED ANGLE WITH OPEN ARM ENDING IN ARROW POINTING UP AND RIGHTlLEFTjDOWN AND RIGHT",
    "lLEFTjRIGHT AND UPjLEFTrjRIGHT AND DOWNjLEFTraREVERSED EMPTY SETaEMPTY SET WITH OVERBAR",
    "dSMALL CIRCLE ABOVEdRIGHT ARROWqdLEFTraCIRCLE WITH HORIZONTAL BARaCIRCLED VERTICALq",
    "bPARALLELbREVERSE SOLIDUSbPERPENDICULAR",
    "aCIRCLE DIVIDED BY HORIZONTAL BAR AND TOP HALF DIVIDED BY VERTICAL BARbWITH SUPERIMPOSED X",
    "aCIRCLED ANTICLOCKWISE-ROTATED DIVISION SIGNaUP ARROW THROUGH CIRCLEaCIRCLED WHITE BULLETbq",
    "bLESS-THANbGREATER-THANaCIRCLE WITH SMALL CIRCLE TO THE RIGHTcTWO HORIZONTAL STROKESs",
    "aSQUARED RISING DIAGONAL SLASHbFALLINGrbASTERISKbSMALL CIRCLEbSQUAREaTWO JOINED SQUARES",
    "aTRIANGLE WITH DOT ABOVEcUNDERBARaS IN TRIANGLEaTRIANGLE WITH SERIFS AT BOTTOM",
    "aRIGHT TRIANGLE ABOVE LEFT TRIANGLEaLEFT TRIANGLE BESIDE VERTICAL BAR",
    "aVERTICAL BAR BESIDE RIGHT TRIANGLEaBOWTIE WITH LEFT HALF BLACKcRIGHTraBLACK BOWTIE",
    "aTIMES WITH LEFT HALF BLACKcRIGHTraWHITE HOURGLASSaBLACKqaLEFT WIGGLY FENCEaRIGHTr",
    "aLEFT DOUBLEraRIGHTsaINCOMPLETE INFINITYaTIE OVERqaINFINITY NEGATED WITH VERTICAL BAR",
    "aDOUBLE-ENDED MULTIMAPaSQUARE WITH CONTOURED OUTLINEaINCREASES ASaSHUFFLE PRODUCT",
    "aEQUALS SIGN AND SLANTED PARALLELfWITH TILDE ABOVEaIDENTICAL TO AND SLANTED PARALLEL",
    "aGLEICH STARKaTHERMODYNAMICaDOWN-POINTING TRIANGLE WITH LEFT HALF BLACKdRIGHTr",
    "aBLACK DIAMOND WITH DOWN ARROWbLOZENGEaWHITE CIRCLE WITH DOWN ARROWaBLACKt",
    "aERROR-BARRED WHITE SQUAREbBLACKqbWHITE DIAMONDbBLACKqbWHITE CIRCLEbBLACKqaRULE-DELAYED",
    "aREVERSE SOLIDUS OPERATORaSOLIDUS WITH OVERBARaREVERSE SOLIDUS WITH HORIZONTAL STROKE",
    "aBIG SOLIDUSbREVERSEqaDOUBLE PLUSaTRIPLEqaLEFT-POINTING CURVED ANGLE BRACKET",
    "aRIGHT-POINTINGsaTINYaMINYaN-ARY CIRCLED DOT OPERATORcPLUSqcTIMESqbUNION OPERATOR WITH DOT",
    "ePLUSbSQUARE INTERSECTION OPERATORcUNIONqaTWO LOGICAL ANDqcORqaN-ARY TIMESqaMODULO TWO SUM",
    "aSUMMATION WITH INTEGRALaQUADRUPLE INTEGRAL OPERATORaFINITE PART INTEGRAL",
    "aINTEGRAL WITH DOUBLE STROKEbAVERAGE WITH SLASHaCIRCULATION FUNCTION",
    "aANTICLOCKWISE INTEGRATIONaLINE INTEGRATION WITH RECTANGULAR PATH AROUND POLEdSEMICIRCULARs",
    "cNOT INCLUDING THEqaINTEGRAL AROUND A POINT OPERATORaQUATERNION INTEGRALq",
    "aINTEGRAL WITH LEFTWARDS ARROW WITH HOOKcTIMES SIGNcINTERSECTIONcUNIONcOVERBARcUNDERBAR",
    "aJOINaLARGE LEFT TRIANGLE OPERATORaZ NOTATION SCHEMA COMPOSITIONdPIPINGdPROJECTION",
    "aPLUS SIGN WITH SMALL CIRCLE ABOVEdCIRCUMFLEX ACCENTqdTILDEqdDOT BELOWdTILDEqdSUBSCRIPT TWO",
    "dBLACK TRIANGLEaMINUS SIGN WITH COMMA ABOVEdDOT BELOWdFALLING DOTSdRISINGq",
    "aPLUS SIGN IN LEFT HALF CIRCLEdRIGHTraVECTOR OR CROSS PRODUCT",
    "aMULTIPLICATION SIGN WITH DOT ABOVEdUNDERBARaSEMIDIRECT PRODUCT WITH BOTTOM CLOSED",
    "aSMASH PRODUCTaMULTIPLICATION SIGN IN LEFT HALF CIRCLEdRIGHTr",
    "aCIRCLED MULTIPLICATION SIGN WITH CIRCUMFLEX ACCENTaMULTIPLICATION SIGN IN DOUBLE CIRCLE",
    "aCIRCLED DIVISION SIGNaPLUS SIGN IN TRIANGLEaMINUSsaMULTIPLICATIONsaINTERIOR PRODUCT",
    "aRIGHTHANDraZ NOTATION RELATIONAL COMPOSITIONaAMALGAMATION OR COPRODUCT",
    "aINTERSECTION WITH DOTaUNION WITH MINUS SIGNcOVERBARaINTERSECTIONrcLOGICAL AND",
    "aUNION WITH LOGICAL ORbABOVE INTERSECTIONaINTERSECTION ABOVE UNION",
    "aUNION ABOVE BAR ABOVE INTERSECTIONaINTERSECTION ABOVE BAR ABOVE UNION",
    "aUNION BESIDE AND JOINED WITHqaINTERSECTION BESIDE AND JOINED WITH INTERSECTION",
    "aCLOSED UNION WITH SERIFSbINTERSECTIONraDOUBLE SQUARE INTERSECTIONcUNION",
    "aCLOSED UNION WITH SERIFS AND SMASH PRODUCTaLOGICAL AND WITH DOT ABOVEbORs",
    "aDOUBLE LOGICAL ANDcORaTWO INTERSECTING LOGICAL ANDdORaSLOPING LARGEqcAND",
    "aLOGICAL OR OVERLAPPING LOGICALqbAND WITH MIDDLE STEMbORsbAND WITH HORIZONTAL DASHbORs",
    "bAND WITH DOUBLE OVERBARdUNDERBARdDOUBLEqaSMALL VEE WITHqaLOGICAL OR WITH DOUBLE OVERBAR",
    "eUNDERBARaZ NOTATION DOMAIN ANTIRESTRICTIONcRANGEqaEQUALS SIGN WITH DOT BELOW",
    "aIDENTICAL WITH DOT ABOVEaTRIPLE HORIZONTAL BAR WITH DOUBLE VERTICAL STROKEeTRIPLEr",
    "aTILDE OPERATOR WITH DOT ABOVEdRISING DOTSaSIMILAR MINUS SIMILARaCONGRUENT WITH DOT ABOVE",
    "aEQUALS WITH ASTERISKaALMOST EQUAL TO WITH CIRCUMFLEX ACCENT",
    "aAPPROXIMATELY EQUAL OR EQUAL TOaEQUALS SIGN ABOVE PLUS SIGNaPLUS SIGN ABOVE EQUALSq",
    "aEQUALS SIGN ABOVE TILDE OPERATORaDOUBLE COLON EQUALaTWO CONSECUTIVE EQUALS SIGNSaTHREEs",
    "aEQUALS SIGN WITH TWO DOTS ABOVE AND TWO DOTS BELOWaEQUIVALENT WITH FOUR DOTS ABOVE",
    "aLESS-THAN WITH CIRCLE INSIDEaGREATER-THANsaLESS-THAN WITH QUESTION MARK ABOVE",
    "aGREATER-THANtaLESS-THAN OR SLANTED EQUAL TOaGREATER-THANt",
    "aLESS-THAN OR SLANTED EQUAL TO WITH DOT INSIDEaGREATER-THANw",
    "aLESS-THAN OR SLANTED EQUAL TO WITH DOT ABOVEaGREATER-THANw",
    "aLESS-THAN OR SLANTED EQUAL TO WITH DOT ABOVE RIGHT",
    "aGREATER-THAN OR SLANTED EQUAL TO WITH DOT ABOVE LEFTaLESS-THAN OR APPROXIMATE",
    "aGREATER-THANraLESS-THAN AND SINGLE-LINE NOT EQUAL TOaGREATER-THANu",
    "aLESS-THAN AND NOT APPROXIMATEaGREATER-THANs",
    "aLESS-THAN ABOVE DOUBLE-LINE EQUAL ABOVE GREATER-THAN",
    "aGREATER-THAN ABOVE DOUBLE-LINE EQUAL ABOVE LESS-THANaLESS-THAN ABOVE SIMILAR OR EQUAL",
    "aGREATER-THANtaLESS-THAN ABOVE SIMILAR ABOVE GREATER-THAN",
    "aGREATER-THAN ABOVE SIMILAR ABOVE LESS-THAN",
    "aLESS-THAN ABOVE GREATER-THAN ABOVE DOUBLE-LINE EQUALaGREATER-THAN ABOVE LESS-THANs",
    "aLESS-THAN ABOVE SLANTED EQUAL ABOVE GREATER-THAN ABOVE SLANTEDq",
    "aGREATER-THAN ABOVE SLANTED EQUAL ABOVE LESS-THANsaSLANTED EQUAL TO OR LESS-THAN",
    "eGREATER-THANeLESS-THAN WITH DOT INSIDEeGREATER-THANsaDOUBLE-LINE EQUAL TO OR LESS-THAN",
    "eGREATER-THANbSLANTED EQUAL TO OR LESS-THANfGREATER-THANaSIMILAR OR LESS-THANcGREATER-THAN",
    "bABOVE LESS-THAN ABOVE EQUALS SIGNcGREATER-THANsaDOUBLE NESTED LESS-THANcGREATER-THAN",
    "cLESS-THAN WITH UNDERBARaGREATER-THAN OVERLAPPING LESS-THANbBESIDEq",
    "aLESS-THAN CLOSED BY CURVEaGREATER-THANsaLESS-THAN CLOSED BY CURVE ABOVE SLANTED EQUAL",
    "aGREATER-THANvaSMALLER THANaLARGERqaSMALLER THAN OR EQUAL TOaLARGERt",
    "aEQUALS SIGN WITH BUMPY ABOVEaPRECEDES ABOVE SINGLE-LINE EQUALS SIGNaSUCCEEDSt",
    "aPRECEDES ABOVE SINGLE-LINE NOT EQUAL TOaSUCCEEDSuaPRECEDES ABOVE EQUALS SIGNaSUCCEEDSs",
    "aPRECEDES ABOVE NOT EQUAL TOaSUCCEEDStaPRECEDES ABOVE ALMOSTraSUCCEEDStaPRECEDES ABOVE NOTs",
    "aSUCCEEDSuaDOUBLE PRECEDESbSUCCEEDSaSUBSET WITH DOTaSUPERSETraSUBSET WITH PLUS SIGN BELOW",
    "aSUPERSETtaSUBSET WITH MULTIPLICATIONraSUPERSETtaSUBSET OF OR EQUAL TO WITH DOT ABOVE",
    "aSUPERSETwaSUBSET OF ABOVE EQUALS SIGNaSUPERSETtaSUBSET OF ABOVE TILDE OPERATORaSUPERSETt",
    "aSUBSET OF ABOVE ALMOST EQUAL TOaSUPERSETuaSUBSET OF ABOVE NOTraSUPERSETu",
    "aSQUARE LEFT OPEN BOX OPERATORbRIGHTsaCLOSED SUBSETbSUPERSETbSUBSET OR EQUAL TObSUPERSETs",
    "aSUBSET ABOVE SUPERSETaSUPERSET ABOVE SUBSETaSUBSETraSUPERSET ABOVE SUPERSETbBESIDE SUBSET",
    "cAND JOINED BY DASH WITHqaELEMENT OF OPENING DOWNWARDSaPITCHFORK WITH TEE TOP",
    "aTRANSVERSAL INTERSECTIONaFORKINGaNONFORKINGaSHORT LEFT TACKbDOWNqbUPqaPERPENDICULAR WITH S",
    "aVERTICAL BAR TRIPLE RIGHT TURNSTILEaDOUBLE VERTICAL BAR LEFTqaVERTICAL BAR DOUBLEraDOUBLEu",
    "aLONG DASH FROM LEFT MEMBER OF DOUBLE VERTICALaSHORT DOWN TACK WITH OVERBAR",
    "bUP TACK WITH UNDERBARdABOVE SHORT DOWN TACKaDOUBLErbUPqbSTROKE NOT SIGNaREVERSEDt",
    "aDOES NOT DIVIDE WITH REVERSED NEGATION SLASHaVERTICAL LINE WITH CIRCLE ABOVEeBELOW",
    "aDOWN TACKsaPARALLEL WITH HORIZONTAL STROKEcTILDE OPERATOR",
    "aTRIPLE VERTICAL BAR BINARY RELATIONdWITH HORIZONTAL STROKEbCOLON OPERATORbNESTED LESS-THAN",
    "cGREATER-THANaDOUBLE-LINE SLANTED LESS-THAN OR EQUAL TOcGREATER-THANs",
    "aTRIPLE SOLIDUS BINARY RELATIONaLARGE TRIPLE VERTICAL BAR OPERATORaDOUBLE SOLIDUSq",
    "aWHITE VERTICAL BARaN-ARYsaNORTH EAST WHITE ARROWbWESTraSOUTH EASTrbWESTraLEFT RIGHTr",
    "aLEFTWARDS BLACKqaUPWARDSraDOWNWARDSraNORTH EASTrbWESTraSOUTH EASTrbWESTraLEFT RIGHTr",
    "aUP DOWNraRIGHTWARDS ARROW WITH TIP DOWNWARDSeUPWARDSaLEFTWARDS ARROW WITH TIP DOWNWARDS",
    "eUPWARDSaSQUARE WITH TOP HALF BLACKcBOTTOMrcUPPER RIGHT DIAGONALrcLOWER LEFTs",
    "aDIAMOND WITH LEFTrcRIGHTrcTOPrcBOTTOMraDOTTED SQUAREaBLACK LARGEqaWHITEraBLACK VERY SMALLq",
    "aWHITEsaBLACK PENTAGONaWHITEqbHEXAGONaBLACKqaHORIZONTALraBLACK LARGE CIRCLEbMEDIUM DIAMOND",
    "aWHITEraBLACK MEDIUM LOZENGEaWHITEraBLACK SMALL DIAMONDcLOZENGEaWHITEr",
    "aBLACK HORIZONTAL ELLIPSEaWHITEraBLACK VERTICALqaWHITEraLEFT ARROW WITH SMALL CIRCLE",
    "aTHREE LEFTWARDS ARROWSaLEFT ARROW WITH CIRCLED PLUSaLONG LEFTWARDS SQUIGGLE ARROW",
    "aLEFTWARDS TWO-HEADED ARROW WITH VERTICAL STROKEeDOUBLErdFROM BARcTRIPLE DASH ARROW",
    "bARROW WITH DOTTED STEMdTAIL WITH VERTICAL STROKEfDOUBLErbTWO-HEADED ARROW WITH TAIL",
    "fWITH VERTICAL STROKEgDOUBLErbARROW THROUGH XaWAVE ARROW POINTING DIRECTLY LEFT",
    "aEQUALS SIGN ABOVE LEFTWARDS ARROWaREVERSE TILDE OPERATORs",
    "aLEFTWARDS ARROW ABOVE REVERSE ALMOST EQUAL TOaRIGHTWARDS ARROW THROUGH GREATER-THAN",
    "dSUPERSETaLEFTWARDS QUADRUPLE ARROWaRIGHTWARDSraREVERSE TILDE OPERATOR ABOVE RIGHTWARDSq",
    "aRIGHTWARDS ARROW ABOVE REVERSE ALMOST EQUAL TOaTILDE OPERATOR ABOVE LEFTWARDS ARROW",
    "aLEFTWARDS ARROW ABOVE ALMOST EQUAL TOdREVERSE TILDE OPERATORaRIGHTWARDSu",
    "aDOWNWARDS TRIANGLE-HEADED ZIGZAG ARROWaSHORT SLANTED NORTHqbBACKSLANTED SOUTHq",
    "aWHITE MEDIUM STARaBLACK SMALLqaWHITEraBLACK RIGHT-POINTING PENTAGONaWHITEr",
    "aHEAVY LARGE CIRCLEbOVAL WITH OVAL INSIDEbCIRCLE WITH CIRCLEqcbCIRCLED SALTIRE",
    "aSLANTED NORTH ARROW WITH HOOKED HEADaBACKSLANTED SOUTH ARROW WITH HOOKED TAIL",
    "aSLANTED NORTH ARROW WITH HORIZONTALqaBACKSLANTED SOUTHt",
    "aBENT ARROW POINTING DOWNWARDS THEN NORTH EASTaSHORTwaLEFTWARDS TRIANGLE-HEADED ARROW",
    "aUPWARDSraRIGHTWARDSraDOWNWARDSraLEFT RIGHTraUP DOWNraNORTH WESTrbEASTraSOUTHsbWESTr",
    "aLEFTWARDS TRIANGLE-HEADED DASHEDqaUPWARDSsaRIGHTWARDSsaDOWNWARDSs",
    "aCLOCKWISE TRIANGLE-HEADED OPEN CIRCLEqaANTICLOCKWISEt",
    "aLEFTWARDS TRIANGLE-HEADED ARROW TO BARaUPWARDStaRIGHTWARDStaDOWNWARDSt"]⟩,
  ⟨0x2b76, [
    "aNORTH WEST TRIANGLE-HEADED ARROW TO BARbEASTtaSOUTHubWESTt",
    "aLEFTWARDS TRIANGLE-HEADED ARROW WITH DOUBLE HORIZONTAL STROKEaUPWARDSvaRIGHTWARDSv",
    "aDOWNWARDSvaHORIZONTAL TAB KEYaVERTICALr",
    "aLEFTWARDS TRIANGLE-HEADED ARROW OVER RIGHTWARDS TRIANGLE-HEADED ARROW",
    "aUPWARDS TRIANGLE-HEADED ARROW LEFTWARDS OF DOWNWARDSr",
    "aRIGHTWARDS TRIANGLE-HEADED ARROW OVER LEFTWARDSr",
    "aDOWNWARDS TRIANGLE-HEADED ARROW LEFTWARDS OF UPWARDSr",
    "aLEFTWARDS TRIANGLE-HEADED PAIRED ARROWSaUPWARDSsaRIGHTWARDSsaDOWNWARDSs",
    "aLEFTWARDS BLACK CIRCLED WHITE ARROWaUPWARDStaRIGHTWARDStaDOWNWARDSt",
    "aANTICLOCKWISE TRIANGLE-HEADED RIGHT U-SHAPEDqcBOTTOMrcLEFTrcTOPraRETURN LEFTbRIGHT",
    "aNEWLINE LEFTbRIGHTaFOUR CORNER ARROWS CIRCLING ANTICLOCKWISEaRIGHTWARDS BLACK ARROW"]⟩,
  ⟨0x2b97, [
    "aSYMBOL FOR TYPE A ELECTRONICSaTHREE-D TOP-LIGHTED LEFTWARDS EQUILATERAL ARROWHEAD",
    "bRIGHT-LIGHTED UPWARDSrbTOP-LIGHTED RIGHTWARDSrbLEFT-LIGHTED DOWNWARDSraBLACK LEFTWARDSr",
    "bUPWARDSrbRIGHTWARDSrbDOWNWARDSraDOWNWARDS TRIANGLE-HEADED ARROW WITH LONG TIP LEFTWARDS",
    "gRIGHTWARDSaUPWARDS TRIANGLE-HEADED ARROW WITH LONG TIP LEFTWARDSgRIGHTWARDS",
    "aLEFTWARDS TRIANGLE-HEADED ARROW WITH LONG TIP UPWARDSaRIGHTWARDSv",
    "aLEFTWARDS TRIANGLE-HEADED ARROW WITH LONG TIP DOWNWARDSaRIGHTWARDSv",
    "aBLACK CURVED DOWNWARDS AND LEFTWARDS ARROWeRIGHTWARDSqcUPWARDS AND LEFTWARDSqeRIGHTWARDSq",
    "cLEFTWARDS AND UPWARDSqcRIGHTWARDSscLEFTWARDS AND DOWNWARDSqcRIGHTWARDSs",
    "aRIBBON ARROW DOWN LEFTdRIGHTcUP LEFTdRIGHTcLEFT UPcRIGHTqcLEFT DOWNcRIGHTq",
    "aUPWARDS WHITE ARROW FROM BAR WITH HORIZONTAL BARaUP ARROWHEAD IN A RECTANGLE BOX",
    "aOVERLAPPING WHITE SQUAREScAND BLACKqbraBALLOT BOX WITH LIGHT XaCIRCLEDqbBOLDq",
    "aBLACK SQUARE CENTREDbDIAMONDqaTURNED BLACK PENTAGONaHORIZONTAL BLACK OCTAGONar",
    "bMEDIUM UP-POINTING TRIANGLE CENTREDcDOWN-POINTINGrcLEFT-POINTINGrcRIGHT-POINTINGr",
    "aNEPTUNE FORM TWOaTOP HALF BLACK CIRCLEaBOTTOMsaLIGHT FOUR POINTED BLACK CUSPaROTATEDu",
    "aWHITE FOUR POINTEDqaROTATEDtaSQUARE POSITION INDICATORaUNCERTAINTY SIGNaGROUP MARK",
    "aPLUTO FORM TWOcTHREEcFOURcFIVEaTRANSPLUTOaPROSERPINAaASTRAEAaHYGIEAaPHOLUSaNESSUS",
    "aWHITE MOON SELENAaBLACK DIAMOND ON CROSSaTRUE LIGHT MOON ARTAaCUPIDOaHADESaZEUSaKRONOS",
    "aAPOLLONaADMETOSaVULCANUSaPOSEIDONaLEFT HALF BLACK STARaRIGHTsaSTAR WITH LEFT HALF BLACK",
    "cRIGHTraLEFTWARDS TWO-HEADED ARROW WITH TRIANGLE ARROWHEADSaUPWARDSuaRIGHTWARDSuaDOWNWARDSu",
    "aERIS FORM ONEcTWOaSEDNAaRUSSIAN ASTROLOGICAL SYMBOL VIGINTILEdNOVILEdQUINTILEdBINOVILE",
    "dSENTAGONdTREDECILEaEQUALS SIGN WITH INFINITY BELOWaUNITED SYMBOLaSEPARATEDqaDOUBLEDq",
    "aPASSEDqaREVERSED RIGHT ANGLEaHELLSCHREIBER PAUSE SYMBOLaGLAGOLITIC CAPITAL LETTER AZUdBUKY",
    "dVEDEdGLAGOLIdDOBROdYESTUdZHIVETEdDZELOdZEMLJAdIZHEdINITIALqdIdDJERVIdKAKOdLJUDIJEdMYSLITE",
    "dNASHIdONUdPOKOJIdRITSIdSLOVOdTVRIDOdUKUdFRITUdHERUdOTUdPEdSHTAdTSIdCHRIVIdSHAdYERUdYERI",
    "dYATIdSPIDERY HAdYUdSMALL YUSfWITH TAILdYOdIOTATED SMALL YUSdBIGqdIOTATEDrdFITAdIZHITSA",
    "dSHTAPICdTROKUTASTI AdLATINATE MYSLITEdCAUDATE CHRIVIbSMALL LETTER AZUdBUKYdVEDEdGLAGOLI",
    "dDOBROdYESTUdZHIVETEdDZELOdZEMLJAdIZHEdINITIALqdIdDJERVIdKAKOdLJUDIJEdMYSLITEdNASHIdONU",
    "dPOKOJIdRITSIdSLOVOdTVRIDOdUKUdFRITUdHERUdOTUdPEdSHTAdTSIdCHRIVIdSHAdYERUdYERIdYATI",
    "dSPIDERY HAdYUdSMALL YUSfWITH TAILdYOdIOTATED SMALL YUSdBIGqdIOTATEDrdFITAdIZHITSAdSHTAPIC",
    "dTROKUTASTI AdLATINATE MYSLITEdCAUDATE CHRIVIaLATIN CAPITAL LETTER L WITH DOUBLE BARbSMALLu",
    "bCAPITAL LETTER L WITH MIDDLE TILDEdP WITH STROKEdR WITH TAILbSMALL LETTER A WITH STROKE",
    "dT WITH DIAGONALqbCAPITAL LETTER H WITH DESCENDERbSMALLtbCAPITAL LETTER KrbSMALLt",
    "bCAPITAL LETTER ZrbSMALLtbCAPITAL LETTER ALPHAdM WITH HOOKdTURNED AeALPHA",
    "bSMALL LETTER V WITH RIGHT HOOKbCAPITAL LETTER W WITHqbSMALLtdV WITH CURL",
    "bCAPITAL LETTER HALF HbSMALLsdTAILLESS PHIdE WITH NOTCHdTURNED R WITH TAIL",
    "dO WITH LOW RING INSIDEbLETTER SMALL CAPITAL TURNED EbSUBSCRIPT SMALL LETTER J",
    "aMODIFIER LETTER CAPITAL VaLATIN CAPITAL LETTER S WITH SWASH TAILdZs",
    "aCOPTIC CAPITAL LETTER ALFAbSMALLrbCAPITAL LETTER VIDAbSMALLrbCAPITAL LETTER GAMMAbSMALLr",
    "bCAPITAL LETTER DALDAbSMALLrbCAPITAL LETTER EIEbSMALLrbCAPITAL LETTER SOUbSMALLr",
    "bCAPITAL LETTER ZATAbSMALLrbCAPITAL LETTER HATEbSMALLrbCAPITAL LETTER THETHEbSMALLr",
    "bCAPITAL LETTER IAUDAbSMALLrbCAPITAL LETTER KAPAbSMALLrbCAPITAL LETTER LAULAbSMALLr",
    "bCAPITAL LETTER MIbSMALLrbCAPITAL LETTER NIbSMALLrbCAPITAL LETTER KSIbSMALLr",
    "bCAPITAL LETTER ObSMALLrbCAPITAL LETTER PIbSMALLrbCAPITAL LETTER RObSMALLr",
    "bCAPITAL LETTER SIMAbSMALLrbCAPITAL LETTER TAUbSMALLrbCAPITAL LETTER UAbSMALLr",
    "bCAPITAL LETTER FIbSMALLrbCAPITAL LETTER KHIbSMALLrbCAPITAL LETTER PSIbSMALLr",
    "bCAPITAL LETTER OOUbSMALLrbCAPITAL LETTER DIALECT-P ALEFbSMALLs",
    "bCAPITAL LETTER OLD COPTIC AINbSMALLtbCAPITAL LETTER CRYPTOGRAMMIC EIEbSMALLs",
    "bCAPITAL LETTER DIALECT-P KAPAbSMALLsbCAPITAL LETTER DIALECT-P NIbSMALLs",
    "bCAPITAL LETTER CRYPTOGRAMMICqbSMALLsbCAPITAL LETTER OLD COPTIC OOUbSMALLt",
    "bCAPITAL LETTER SAMPIbSMALLrbCAPITAL LETTER CROSSED SHEIbSMALLsbCAPITAL LETTER OLD COPTICq",
    "bSMALLtbCAPITAL LETTER OLD COPTIC ESHbSMALLtbCAPITAL LETTER AKHMIMIC KHEIbSMALLs",
    "bCAPITAL LETTER DIALECT-P HORIbSMALLsbCAPITAL LETTER OLD COPTICqbSMALLt",
    "bCAPITAL LETTER OLD COPTIC HAbSMALLtbCAPITAL LETTER L-SHAPEDqbSMALLs",
    "bCAPITAL LETTER OLD COPTIC HEIbSMALLtbCAPITAL LETTER OLD COPTIC HATbSMALLt",
    "bCAPITAL LETTER OLD COPTIC GANGIAbSMALLtbCAPITAL LETTER OLD COPTIC DJAbSMALLt",
    "bCAPITAL LETTER OLD COPTIC SHIMAbSMALLtbCAPITAL LETTER OLD NUBIANqbSMALLt",
    "bCAPITAL LETTER OLD NUBIAN NGIbSMALLtbCAPITAL LETTER OLD NUBIAN NYIbSMALLt",
    "bCAPITAL LETTER OLD NUBIAN WAUbSMALLtbSYMBOL KAIcMI ROcPIqcSTAUROScTAU ROcKHIqcSHIMA SIMA",
    "bCAPITAL LETTER CRYPTOGRAMMIC SHEIbSMALLsbCAPITAL LETTER CRYPTOGRAMMIC GANGIAbSMALLs",
    "bCOMBINING NI ABOVEcSPIRITUS ASPERdLENISbCAPITAL LETTER BOHAIRIC KHEIbSMALLs"]⟩,
  ⟨0x2cf9, [
    "aCOPTIC OLD NUBIAN FULL STOPdDIRECT QUESTION MARKdINDIRECTrdVERSE DIVIDERbFRACTION ONE HALF",
    "bFULL STOPbMORPHOLOGICAL DIVIDERaGEORGIAN SMALL LETTER ANdBANdGANdDONdENdVINdZENdTANdINdKAN",
    "dLASdMANdNARdONdPARdZHARdRAEdSANdTARdUNdPHARdKHARdGHANdQARdSHINdCHINdCANdJILdCILdCHARdXAN",
    "dJHANdHAEdHEdHIEdWEdHARdHOE"]⟩,
  ⟨0x2d27, ["aGEORGIAN SMALL LETTER YN"]⟩, ⟨0x2d2d, ["aGEORGIAN SMALL LETTER AEN"]⟩,
  ⟨0x2d30, [
    "aTIFINAGH LETTER YAcYABcYABHcYAGcYAGHHcBERBER ACADEMY YAJcqcYADcYADHcYADDcYADDHcYEYcYAFcYAK",
    "cTUAREGqcYAKHHcYAHcBERBER ACADEMYqcTUAREGqcYAHHcYAAcYAKHcTUAREGqcYAQcTUAREGqcYIcYAZH",
    "cAHAGGARqcTUAREGqcYALcYAMcYANcTUAREG YAGNdYANGcYAPcYUcYARcYARRcYAGHcTUAREGqcAYERqcYAScYASS",
    "cYASHcYATcYATHcYACHcYATTcYAVcYAWcYAYcYAZcTAWELLEMETqcYAZZcYEcYO"]⟩,
  ⟨0x2d6f, ["aTIFINAGH MODIFIER LETTER LABIALIZATION MARKbSEPARATORq"]⟩,
  ⟨0x2d7f, [
    "aTIFINAGH CONSONANT JOINERaETHIOPIC SYLLABLE LOAcMOAcROAcSOAcSHOAcBOAcTOAcCOAcNOAcNYOA",
    "cGLOTTAL OAcZOAcDOAcDDOAcJOAcTHOAcCHOAcPHOAcPOAcGGWAcGGWIcGGWEEcGGWE"]⟩,
  ⟨0x2da0, ["aETHIOPIC SYLLABLE SSAcSSUcSSIcSSAAcSSEEcSSEcSSO"]⟩,
  ⟨0x2da8, ["aETHIOPIC SYLLABLE CCAcCCUcCCIcCCAAcCCEEcCCEcCCO"]⟩,
  ⟨0x2db0, ["aETHIOPIC SYLLABLE ZZAcZZUcZZIcZZAAcZZEEcZZEcZZO"]⟩,
  ⟨0x2db8, ["aETHIOPIC SYLLABLE CCHAcCCHUcCCHIcCCHAAcCCHEEcCCHEcCCHO"]⟩,
  ⟨0x2dc0, ["aETHIOPIC SYLLABLE QYAcQYUcQYIcQYAAcQYEEcQYEcQYO"]⟩,
  ⟨0x2dc8, ["aETHIOPIC SYLLABLE KYAcKYUcKYIcKYAAcKYEEcKYEcKYO"]⟩,
  ⟨0x2dd0, ["aETHIOPIC SYLLABLE XYAcXYUcXYIcXYAAcXYEEcXYEcXYO"]⟩,
  ⟨0x2dd8, ["aETHIOPIC SYLLABLE GYAcGYUcGYIcGYAAcGYEEcGYEcGYO"]⟩,
  ⟨0x2de0, [
    "aCOMBINING CYRILLIC LETTER BEdVEdGHEdDEdZHEdZEdKAdELdEMdENdOdPEdERdESdTEdHAdTSEdCHEdSHA",
    "dSHCHAdFITAdES-TEdAdIEdDJERVdMONOGRAPH UKdYATdYUdIOTIFIED AdLITTLE YUSdBIGqdIOTIFIEDr",
    "aRIGHT ANGLE SUBSTITUTION MARKERcDOTTEDraLEFT SUBSTITUTION BRACKETaRIGHTraLEFT DOTTEDr",
    "aRIGHTsaRAISED INTERPOLATION MARKERbDOTTEDraDOTTED TRANSPOSITIONq",
    "aLEFT TRANSPOSITION BRACKETaRIGHTraRAISED SQUAREaLEFT RAISED OMISSION BRACKETaRIGHTs",
    "aEDITORIAL CORONISaPARAGRAPHOSaFORKEDqaREVERSEDraHYPODIASTOLEaDOTTED OBELOS",
    "aDOWNWARDS ANCORAaUPWARDSqaDOTTED RIGHT-POINTING ANGLEaDOUBLE OBLIQUE HYPHEN",
    "aINVERTED INTERROBANGaPALM BRANCHaHYPHEN WITH DIAERESISaTILDE WITH RING ABOVE",
    "aLEFT LOW PARAPHRASE BRACKETaRIGHTsaTILDE WITH DOT ABOVEdBELOWaLEFT VERTICAL BAR WITH QUILL",
    "aRIGHTtaTOP LEFT HALF BRACKETbRIGHTraBOTTOM LEFTrbRIGHTraLEFT SIDEWAYS UqaRIGHTs",
    "aLEFT DOUBLE PARENTHESISaRIGHTraTWO DOTS OVER ONE DOT PUNCTUATIONaONE DOT OVER TWO DOTSq",
    "aSQUARED FOUR DOTqaFIVE DOT MARKaREVERSED QUESTIONqaVERTICAL TILDEaRING POINT",
    "aWORD SEPARATOR MIDDLE DOTaTURNED COMMAaRAISED DOTbCOMMAaTURNED SEMICOLON",
    "aDAGGER WITH LEFT GUARDcRIGHTqaTURNED DAGGERaTOP HALF SECTION SIGNaTWO-EM DASHaTHREE-EMq",
    "aSTENOGRAPHIC FULL STOPaVERTICAL SIX DOTSaWIGGLY VERTICAL LINEaCAPITULUMaDOUBLE HYPHEN",
    "aREVERSED COMMAaDOUBLE LOW-REVERSED-9 QUOTATION MARKaDASH WITH LEFT UPTURN",
    "aDOUBLE SUSPENSION MARKaINVERTED LOW KAVYKAdWITH KAVYKA ABOVEaLOW KAVYKAcWITH DOT",
    "aDOUBLE STACKED COMMAaDOTTED SOLIDUSaTRIPLE DAGGERaMEDIEVAL COMMAaPARAGRAPHUS MARK",
    "aPUNCTUS ELEVATUSqaCORNISH VERSE DIVIDERaCROSS PATTY WITH RIGHT CROSSBARdLEFTq",
    "aTIRONIAN SIGN CAPITAL ETaMEDIEVAL EXCLAMATION MARKbQUESTIONq",
    "aLEFT SQUARE BRACKET WITH STROKEaRIGHTtaLEFT SQUARE BRACKET WITH DOUBLEqaRIGHTu",
    "aTOP HALF LEFT PARENTHESIScRIGHTqaBOTTOM HALF LEFTqcRIGHTqaOBLIQUE HYPHEN"]⟩,
  ⟨0x2e80, [
    "aCJK RADICAL REPEATcCLIFFcSECOND ONEdTWOdTHREEcPERSONcBOXcTABLEcKNIFE ONEdTWOcDIVINATION",
    "cSEALcSMALL ONEdTWOcLAME ONEdTWOdTHREEdFOURcSNAKEcTHREADcSNOUT ONEdTWOcHEART ONEdTWOcHAND",
    "cRAP"]⟩,
  ⟨0x2e9b, [
    "aCJK RADICAL CHOKEcSUNcMOONcDEATHcMOTHERcCIVILIANcWATER ONEdTWOcFIREcPAW ONEdTWO",
    "cSIMPLIFIED HALF TREE TRUNKcCOWcDOGcJADEcBOLT OF CLOTHcEYEcSPIRIT ONEdTWOcBAMBOOcSILK",
    "cC-SIMPLIFIEDqcNET ONEdTWOdTHREEdFOURcMESHcSHEEPcRAMcEWEcOLDcBRUSH ONEdTWOcMEATcMORTAR",
    "cGRASS ONEdTWOdTHREEcTIGERcCLOTHEScWEST ONEdTWOcC-SIMPLIFIED SEEcSIMPLIFIED HORNcq",
    "cC-SIMPLIFIED SPEECHdSHELLcFOOTcC-SIMPLIFIED CARTcSIMPLIFIED WALKcWALK ONEdTWOcCITY",
    "cC-SIMPLIFIED GOLDcLONG ONEdTWOcC-SIMPLIFIED LONGdGATEcMOUND ONEdTWOcRAINcBLUE",
    "cC-SIMPLIFIED TANNED LEATHERdLEAFdWINDdFLYcEAT ONEdTWOdTHREEcC-SIMPLIFIED EATcHEAD",
    "cC-SIMPLIFIED HORSEcBONEcGHOSTcC-SIMPLIFIED FISHdBIRDdSALTcSIMPLIFIED WHEATdYELLOW",
    "cC-SIMPLIFIED FROGcJ-SIMPLIFIED EVENcC-SIMPLIFIEDqcJ-SIMPLIFIED TOOTHcC-SIMPLIFIEDq",
    "cJ-SIMPLIFIED DRAGONcC-SIMPLIFIEDqcTURTLEcJ-SIMPLIFIEDqcC-SIMPLIFIEDq"]⟩,
  ⟨0x2f00, [
    "aKANGXI RADICAL ONEcLINEcDOTcSLASHcSECONDcHOOKcTWOcLIDcMANcLEGScENTERcEIGHTcDOWN BOXcCOVER",
    "cICEcTABLEcOPEN BOXcKNIFEcPOWERcWRAPcSPOONcRIGHT OPEN BOXcHIDING ENCLOSUREcTENcDIVINATION",
    "cSEALcCLIFFcPRIVATEcAGAINcMOUTHcENCLOSUREcEARTHcSCHOLARcGOdSLOWLYcEVENINGcBIGcWOMANcCHILD",
    "cROOFcINCHcSMALLcLAMEcCORPSEcSPROUTcMOUNTAINcRIVERcWORKcONESELFcTURBANcDRYcSHORT THREAD",
    "cDOTTED CLIFFcLONG STRIDEcTWO HANDScSHOOTcBOWcSNOUTcBRISTLEcSTEPcHEARTcHALBERDcDOORcHAND",
    "cBRANCHcRAPcSCRIPTcDIPPERcAXEcSQUAREcNOTcSUNcSAYcMOONcTREEcLACKcSTOPcDEATHcWEAPONcDO NOT",
    "cCOMPAREcFURcCLANcSTEAMcWATERcFIREcCLAWcFATHERcDOUBLE XcHALF TREE TRUNKcSLICEcFANGcCOWcDOG",
    "cPROFOUNDcJADEcMELONcTILEcSWEETcLIFEcUSEcFIELDcBOLT OF CLOTHcSICKNESScDOTTED TENTcWHITE",
    "cSKINcDISHcEYEcSPEARcARROWcSTONEcSPIRITcTRACKcGRAINcCAVEcSTANDcBAMBOOcRICEcSILKcJARcNET",
    "cSHEEPcFEATHERcOLDcANDcPLOWcEARcBRUSHcMEATcMINISTERcSELFcARRIVEcMORTARcTONGUEcOPPOSEcBOAT",
    "cSTOPPINGcCOLORcGRASScTIGERcINSECTcBLOODcWALK ENCLOSUREcCLOTHEScWESTcSEEcHORNcSPEECHcVALLEY",
    "cBEANcPIGcBADGERcSHELLcREDcRUNcFOOTcBODYcCARTcBITTERcMORNINGcWALKcCITYcWINEcDISTINGUISH",
    "cVILLAGEcGOLDcLONGcGATEcMOUNDcSLAVEcSHORT TAILED BIRDcRAINcBLUEcWRONGcFACEcLEATHERcTANNEDq",
    "cLEEKcSOUNDcLEAFcWINDcFLYcEATcHEADcFRAGRANTcHORSEcBONEcTALLcHAIRcFIGHTcSACRIFICIAL WINE",
    "cCAULDRONcGHOSTcFISHcBIRDcSALTcDEERcWHEATcHEMPcYELLOWcMILLETcBLACKcEMBROIDERYcFROGcTRIPOD",
    "cDRUMcRATcNOSEcEVENcTOOTHcDRAGONcTURTLEcFLUTE"]⟩,
  ⟨0x2ff0, [
    "aIDEOGRAPHIC DESCRIPTION CHARACTER LEFT TO RIGHTdABOVE TO BELOWdLEFT TO MIDDLE AND RIGHT",
    "dABOVE TO MIDDLE AND BELOWdFULL SURROUNDdSURROUND FROM ABOVEfBELOWfLEFTfUPPERqgRIGHT",
    "fLOWER LEFTdOVERLAID"]⟩]

end Daybook.Text.CharName
