import Daybook.Text.CharName.Row

/-!
Names of the characters below 1000 in base sixteen: the alphabets from Latin to Tibetan.
-/

namespace Daybook.Text.CharName

def alphabets : List Row := [
  ⟨0x20, [
    "aSPACEaEXCLAMATION MARKaQUOTATIONqaNUMBER SIGNaDOLLARqaPERCENTqaAMPERSANDaAPOSTROPHE",
    "aLEFT PARENTHESISaRIGHTqaASTERISKaPLUS SIGNaCOMMAaHYPHEN-MINUSaFULL STOPaSOLIDUSaDIGIT ZERO",
    "bONEbTWObTHREEbFOURbFIVEbSIXbSEVENbEIGHTbNINEaCOLONaSEMICOLONaLESS-THAN SIGNaEQUALSq",
    "aGREATER-THANqaQUESTION MARKaCOMMERCIAL ATaLATIN CAPITAL LETTER AdBdCdDdEdFdGdHdIdJdKdLdMdN",
    "dOdPdQdRdSdTdUdVdWdXdYdZaLEFT SQUARE BRACKETaREVERSE SOLIDUSaRIGHT SQUARE BRACKET",
    "aCIRCUMFLEX ACCENTaLOW LINEaGRAVE ACCENTaLATIN SMALL LETTER AdBdCdDdEdFdGdHdIdJdKdLdMdNdOdP",
    "dQdRdSdTdUdVdWdXdYdZaLEFT CURLY BRACKETaVERTICAL LINEaRIGHT CURLY BRACKETaTILDE"]⟩,
  ⟨0xa0, [
    "aNO-BREAK SPACEaINVERTED EXCLAMATION MARKaCENT SIGNaPOUNDqaCURRENCYqaYENqaBROKEN BAR",
    "aSECTION SIGNaDIAERESISaCOPYRIGHT SIGNaFEMININE ORDINAL INDICATOR",
    "aLEFT-POINTING DOUBLE ANGLE QUOTATION MARKaNOT SIGNaSOFT HYPHENaREGISTERED SIGNaMACRON",
    "aDEGREE SIGNaPLUS-MINUSqaSUPERSCRIPT TWObTHREEaACUTE ACCENTaMICRO SIGNaPILCROWqaMIDDLE DOT",
    "aCEDILLAaSUPERSCRIPT ONEaMASCULINE ORDINAL INDICATOR",
    "aRIGHT-POINTING DOUBLE ANGLE QUOTATION MARKaVULGAR FRACTION ONE QUARTERdHALFcTHREE QUARTERS",
    "aINVERTED QUESTION MARKaLATIN CAPITAL LETTER A WITH GRAVEfACUTEfCIRCUMFLEXfTILDEfDIAERESIS",
    "fRING ABOVEdAEdC WITH CEDILLAdE WITH GRAVEfACUTEfCIRCUMFLEXfDIAERESISdI WITH GRAVEfACUTE",
    "fCIRCUMFLEXfDIAERESISdETHdN WITH TILDEdO WITH GRAVEfACUTEfCIRCUMFLEXfTILDEfDIAERESIS",
    "aMULTIPLICATION SIGNaLATIN CAPITAL LETTER O WITH STROKEdU WITH GRAVEfACUTEfCIRCUMFLEX",
    "fDIAERESISdY WITH ACUTEdTHORNbSMALL LETTER SHARP SdA WITH GRAVEfACUTEfCIRCUMFLEXfTILDE",
    "fDIAERESISfRING ABOVEdAEdC WITH CEDILLAdE WITH GRAVEfACUTEfCIRCUMFLEXfDIAERESIS",
    "dI WITH GRAVEfACUTEfCIRCUMFLEXfDIAERESISdETHdN WITH TILDEdO WITH GRAVEfACUTEfCIRCUMFLEX",
    "fTILDEfDIAERESISaDIVISION SIGNaLATIN SMALL LETTER O WITH STROKEdU WITH GRAVEfACUTE",
    "fCIRCUMFLEXfDIAERESISdY WITH ACUTEdTHORNdY WITH DIAERESISbCAPITAL LETTER A WITH MACRON",
    "bSMALLtbCAPITAL LETTER A WITH BREVEbSMALLtbCAPITAL LETTER A WITH OGONEKbSMALLt",
    "bCAPITAL LETTER C WITH ACUTEbSMALLtbCAPITAL LETTER C WITH CIRCUMFLEXbSMALLt",
    "bCAPITAL LETTER C WITH DOT ABOVEbSMALLubCAPITAL LETTER C WITH CARONbSMALLt",
    "bCAPITAL LETTER DrbSMALLtbCAPITAL LETTER D WITH STROKEbSMALLtbCAPITAL LETTER E WITH MACRON",
    "bSMALLtbCAPITAL LETTER E WITH BREVEbSMALLtbCAPITAL LETTER E WITH DOT ABOVEbSMALLu",
    "bCAPITAL LETTER E WITH OGONEKbSMALLtbCAPITAL LETTER E WITH CARONbSMALLt",
    "bCAPITAL LETTER G WITH CIRCUMFLEXbSMALLtbCAPITAL LETTER G WITH BREVEbSMALLt",
    "bCAPITAL LETTER G WITH DOT ABOVEbSMALLubCAPITAL LETTER G WITH CEDILLAbSMALLt",
    "bCAPITAL LETTER H WITH CIRCUMFLEXbSMALLtbCAPITAL LETTER H WITH STROKEbSMALLt",
    "bCAPITAL LETTER I WITH TILDEbSMALLtbCAPITAL LETTER I WITH MACRONbSMALLt",
    "bCAPITAL LETTER I WITH BREVEbSMALLtbCAPITAL LETTER I WITH OGONEKbSMALLt",
    "bCAPITAL LETTER I WITH DOT ABOVEbSMALL LETTER DOTLESS IbCAPITAL LIGATURE IJbSMALLr",
    "bCAPITAL LETTER J WITH CIRCUMFLEXbSMALLtbCAPITAL LETTER K WITH CEDILLAbSMALLtdKRA",
    "bCAPITAL LETTER L WITH ACUTEbSMALLtbCAPITAL LETTER L WITH CEDILLAbSMALLt",
    "bCAPITAL LETTER L WITH CARONbSMALLtbCAPITAL LETTER L WITH MIDDLE DOTbSMALLu",
    "bCAPITAL LETTER L WITH STROKEbSMALLtbCAPITAL LETTER N WITH ACUTEbSMALLt",
    "bCAPITAL LETTER N WITH CEDILLAbSMALLtbCAPITAL LETTER N WITH CARONbSMALLt",
    "ePRECEDED BY APOSTROPHEbCAPITAL LETTER ENGbSMALLrbCAPITAL LETTER O WITH MACRONbSMALLt",
    "bCAPITAL LETTER O WITH BREVEbSMALLtbCAPITAL LETTER O WITH DOUBLE ACUTEbSMALLu",
    "bCAPITAL LIGATURE OEbSMALLrbCAPITAL LETTER R WITH ACUTEbSMALLt",
    "bCAPITAL LETTER R WITH CEDILLAbSMALLtbCAPITAL LETTER R WITH CARONbSMALLt",
    "bCAPITAL LETTER S WITH ACUTEbSMALLtbCAPITAL LETTER S WITH CIRCUMFLEXbSMALLt",
    "bCAPITAL LETTER S WITH CEDILLAbSMALLtbCAPITAL LETTER S WITH CARONbSMALLt",
    "bCAPITAL LETTER T WITH CEDILLAbSMALLtbCAPITAL LETTER T WITH CARONbSMALLt",
    "bCAPITAL LETTER T WITH STROKEbSMALLtbCAPITAL LETTER U WITH TILDEbSMALLt",
    "bCAPITAL LETTER U WITH MACRONbSMALLtbCAPITAL LETTER U WITH BREVEbSMALLt",
    "bCAPITAL LETTER U WITH RING ABOVEbSMALLubCAPITAL LETTER U WITH DOUBLE ACUTEbSMALLu",
    "bCAPITAL LETTER U WITH OGONEKbSMALLtbCAPITAL LETTER W WITH CIRCUMFLEXbSMALLt",
    "bCAPITAL LETTER YrbSMALLtbCAPITAL LETTER Y WITH DIAERESISdZ WITH ACUTEbSMALLt",
    "bCAPITAL LETTER Z WITH DOT ABOVEbSMALLubCAPITAL LETTER Z WITH CARONbSMALLtdLONG S",
    "dB WITH STROKEbCAPITAL LETTER B WITH HOOKfTOPBARbSMALLtbCAPITAL LETTER TONE SIXbSMALLs",
    "bCAPITAL LETTER OPEN OdC WITH HOOKbSMALLtbCAPITAL LETTER AFRICAN DdD WITH HOOKfTOPBAR",
    "bSMALLtdTURNED DELTAbCAPITAL LETTER REVERSED EdSCHWAdOPEN EdF WITH HOOKbSMALLt",
    "bCAPITAL LETTER GrdGAMMAbSMALL LETTER HVbCAPITAL LETTER IOTAdI WITH STROKEdK WITH HOOK",
    "bSMALLtdL WITH BARdLAMBDA WITH STROKEbCAPITAL LETTER TURNED MdN WITH LEFT HOOK",
    "bSMALL LETTER N WITH LONG RIGHT LEGbCAPITAL LETTER O WITH MIDDLE TILDEfHORNbSMALLt",
    "bCAPITAL LETTER OIbSMALLrbCAPITAL LETTER P WITH HOOKbSMALLtbLETTER YR",
    "bCAPITAL LETTER TONE TWObSMALLsbCAPITAL LETTER ESHbLETTER REVERSED ESH LOOP",
    "bSMALL LETTER T WITH PALATAL HOOKbCAPITAL LETTER T WITHqbSMALLt",
    "bCAPITAL LETTER T WITH RETROFLEXqdU WITH HORNbSMALLtbCAPITAL LETTER UPSILONdV WITH HOOKdYr",
    "bSMALLtbCAPITAL LETTER Z WITH STROKEbSMALLtbCAPITAL LETTER EZHeREVERSEDbSMALLseWITH TAIL",
    "bLETTER TWO WITH STROKEbCAPITAL LETTER TONE FIVEbSMALLs",
    "bLETTER INVERTED GLOTTAL STOP WITH STROKEcWYNNcDENTAL CLICKcLATERALqcALVEOLARqcRETROFLEXq",
    "bCAPITAL LETTER DZ WITH CARONdD WITH SMALL LETTER ZrbSMALL LETTER DZrbCAPITAL LETTER LJ",
    "dL WITH SMALL LETTER JbSMALL LETTER LJbCAPITAL LETTER NJdN WITH SMALL LETTER J",
    "bSMALL LETTER NJbCAPITAL LETTER A WITH CARONbSMALLtbCAPITAL LETTER IrbSMALLt",
    "bCAPITAL LETTER OrbSMALLtbCAPITAL LETTER UrbSMALLt",
    "bCAPITAL LETTER U WITH DIAERESIS AND MACRONbSMALLv",
    "bCAPITAL LETTER U WITH DIAERESIS AND ACUTEbSMALLvbCAPITAL LETTER U WITH DIAERESIS AND CARON",
    "bSMALLvbCAPITAL LETTER U WITH DIAERESIS AND GRAVEbSMALLvdTURNED E",
    "bCAPITAL LETTER A WITH DIAERESIS AND MACRONbSMALLvbCAPITAL LETTER A WITH DOT ABOVErbSMALLw",
    "bCAPITAL LETTER AE WITHqbSMALLtbCAPITAL LETTER G WITH STROKEbSMALLt",
    "bCAPITAL LETTER G WITH CARONbSMALLtbCAPITAL LETTER KrbSMALLtbCAPITAL LETTER O WITH OGONEK",
    "bSMALLtbCAPITAL LETTER O WITH OGONEK AND MACRONbSMALLvbCAPITAL LETTER EZH WITH CARONbSMALLt",
    "dJrbCAPITAL LETTER DZdD WITH SMALL LETTER ZbSMALL LETTER DZbCAPITAL LETTER G WITH ACUTE",
    "bSMALLtbCAPITAL LETTER HWAIRdWYNNdN WITH GRAVEbSMALLt",
    "bCAPITAL LETTER A WITH RING ABOVE AND ACUTEbSMALLwbCAPITAL LETTER AE WITHqbSMALLt",
    "bCAPITAL LETTER O WITH STROKE ANDqbSMALLvbCAPITAL LETTER A WITH DOUBLE GRAVEbSMALLu",
    "bCAPITAL LETTER A WITH INVERTED BREVEbSMALLubCAPITAL LETTER E WITH DOUBLE GRAVEbSMALLu",
    "bCAPITAL LETTER E WITH INVERTED BREVEbSMALLubCAPITAL LETTER I WITH DOUBLE GRAVEbSMALLu",
    "bCAPITAL LETTER I WITH INVERTED BREVEbSMALLubCAPITAL LETTER O WITH DOUBLE GRAVEbSMALLu",
    "bCAPITAL LETTER O WITH INVERTED BREVEbSMALLubCAPITAL LETTER R WITH DOUBLE GRAVEbSMALLu",
    "bCAPITAL LETTER R WITH INVERTED BREVEbSMALLubCAPITAL LETTER U WITH DOUBLE GRAVEbSMALLu",
    "bCAPITAL LETTER U WITH INVERTED BREVEbSMALLubCAPITAL LETTER S WITH COMMA BELOWbSMALLu",
    "bCAPITAL LETTER TsbSMALLubCAPITAL LETTER YOGHbSMALLrbCAPITAL LETTER H WITH CARONbSMALLt",
    "bCAPITAL LETTER N WITH LONG RIGHT LEGbSMALL LETTER D WITH CURLbCAPITAL LETTER OUbSMALLr",
    "bCAPITAL LETTER Z WITH HOOKbSMALLtbCAPITAL LETTER A WITH DOT ABOVEbSMALLu",
    "bCAPITAL LETTER E WITH CEDILLAbSMALLtbCAPITAL LETTER O WITH DIAERESIS AND MACRONbSMALLv",
    "bCAPITAL LETTER O WITH TILDErbSMALLvbCAPITAL LETTER O WITH DOT ABOVEbSMALLu",
    "bCAPITAL LETTER O WITH DOT ABOVE AND MACRONbSMALLwbCAPITAL LETTER Y WITHqbSMALLt",
    "dL WITH CURLdNrdTrdDOTLESS JdDB DIGRAPHdQPqbCAPITAL LETTER A WITH STROKEdCrbSMALLt",
    "bCAPITAL LETTER L WITH BARdT WITH DIAGONAL STROKEbSMALL LETTER S WITH SWASH TAILdZs",
    "bCAPITAL LETTER GLOTTAL STOPbSMALLsbCAPITAL LETTER B WITH STROKEdU BARdTURNED V",
    "dE WITH STROKEbSMALLtbCAPITAL LETTER JrbSMALLtbCAPITAL LETTER SMALL Q WITH HOOK TAIL",
    "bSMALL LETTERtbCAPITAL LETTER R WITH STROKEbSMALLtbCAPITAL LETTER YrbSMALLtdTURNED AdALPHA",
    "dTURNEDqdB WITH HOOKdOPEN OdC WITH CURLdD WITH TAILfHOOKdREVERSED EdSCHWAeWITH HOOKdOPEN E",
    "dREVERSEDrgWITH HOOKdCLOSED REVERSED OPEN EdDOTLESS J WITH STROKEdG WITH HOOKdSCRIPT G",
    "bLETTER SMALL CAPITALqbSMALL LETTER GAMMAdRAMS HORNdTURNED HdH WITH HOOKdHENGr",
    "dI WITH STROKEdIOTAbLETTER SMALL CAPITAL IbSMALL LETTER L WITH MIDDLE TILDEfBELT",
    "fRETROFLEX HOOKdLEZHdTURNED MfWITH LONG LEGdM WITH HOOKdN WITH LEFTqfRETROFLEXq",
    "bLETTER SMALL CAPITAL NbSMALL LETTER BARRED ObLETTER SMALL CAPITAL OE",
    "bSMALL LETTER CLOSED OMEGAdPHIdTURNED RfWITH LONG LEGgHOOKdR WITH LONG LEGfTAILfFISHHOOK",
    "dREVERSEDsbLETTER SMALL CAPITAL ReINVERTEDqbSMALL LETTER S WITH HOOKdESH",
    "dDOTLESS J WITH STROKE AND HOOKdSQUAT REVERSED ESHdESH WITH CURLdTURNED T",
    "dT WITH RETROFLEX HOOKdU BARdUPSILONdV WITH HOOKdTURNED VeWeYbLETTER SMALL CAPITALq",
    "bSMALL LETTER Z WITH RETROFLEX HOOKfCURLdEZHeWITH CURLbLETTER GLOTTAL STOP",
    "cPHARYNGEAL VOICED FRICATIVEcINVERTED GLOTTAL STOPcSTRETCHED CcBILABIAL CLICK",
    "cSMALL CAPITAL BbSMALL LETTER CLOSED OPEN EbLETTER SMALL CAPITAL G WITH HOOKeH",
    "bSMALL LETTER J WITH CROSSED-TAILdTURNED KbLETTER SMALL CAPITAL LbSMALL LETTER Q WITH HOOK",
    "bLETTER GLOTTAL STOP WITH STROKEcREVERSEDtbSMALL LETTER DZ DIGRAPHdDEZHq",
    "dDZ DIGRAPH WITH CURLdTS DIGRAPHdTESHqdTC DIGRAPH WITH CURLdFENG DIGRAPHdLSqdLZq",
    "bLETTER BILABIAL PERCUSSIVEcBIDENTALqbSMALL LETTER TURNED H WITH FISHHOOKhAND TAIL",
    "aMODIFIER LETTER SMALL HeWITH HOOKdJdRdTURNEDqfWITH HOOKdCAPITAL INVERTED RdWdYcPRIME",
    "cDOUBLEqcTURNED COMMAcAPOSTROPHEcREVERSED COMMAcRIGHT HALF RINGcLEFTrcGLOTTAL STOP",
    "cREVERSEDrcLEFT ARROWHEADcRIGHTqcUPqcDOWNqcCIRCUMFLEX ACCENTaCARON",
    "aMODIFIER LETTER VERTICAL LINEcMACRONcACUTE ACCENTcGRAVEqcLOW VERTICAL LINEdMACRON",
    "dGRAVE ACCENTdACUTEqcTRIANGULAR COLONcHALFrcCENTRED RIGHT HALF RINGdLEFTrcUP TACKcDOWNq",
    "cPLUS SIGNcMINUSqaBREVEaDOT ABOVEaRINGqaOGONEKaSMALL TILDEaDOUBLE ACUTE ACCENT",
    "aMODIFIER LETTER RHOTIC HOOKcCROSS ACCENTcSMALL GAMMAdLdSdXdREVERSED GLOTTAL STOP",
    "cEXTRA-HIGH TONE BARcHIGHrcMIDrcLOWrcEXTRA-LOWrcYIN DEPARTING TONE MARKcYANGscVOICING",
    "cUNASPIRATEDcDOUBLE APOSTROPHEcLOW DOWN ARROWHEADdUPqdLEFTqdRIGHTqdRINGcMIDDLE GRAVE ACCENT",
    "dDOUBLEreACUTEqcLOW TILDEcRAISED COLONcBEGIN HIGH TONEcENDrcBEGIN LOWqcENDrcSHELFcOPENq",
    "cLOW LEFT ARROWaCOMBINING GRAVE ACCENTbACUTEqbCIRCUMFLEXqbTILDEbMACRONbOVERLINEbBREVE",
    "bDOT ABOVEbDIAERESISbHOOK ABOVEbRINGqbDOUBLE ACUTE ACCENTbCARONbVERTICAL LINE ABOVEbDOUBLEs",
    "cGRAVE ACCENTbCANDRABINDUbINVERTED BREVEbTURNED COMMA ABOVEbrbREVERSEDrbCOMMA ABOVE RIGHT",
    "bGRAVE ACCENT BELOWbACUTErbLEFT TACKqbRIGHTrbLEFT ANGLE ABOVEbHORNbLEFT HALF RING BELOW",
    "bUP TACKqbDOWNrbPLUS SIGNqbMINUSrbPALATALIZED HOOKqbRETROFLEXrbDOTqbDIAERESISqbRINGqbCOMMAq",
    "bCEDILLAbOGONEKbVERTICAL LINE BELOWbBRIDGEqbINVERTED DOUBLE ARCHqbCARONqbCIRCUMFLEX ACCENTq",
    "bBREVEqbINVERTEDrbTILDEqbMACRONqbLOW LINEbDOUBLErbTILDE OVERLAYbSHORT STROKEqbLONGr",
    "bSHORT SOLIDUSqbLONGrbRIGHT HALF RING BELOWbINVERTED BRIDGEqbSQUAREqbSEAGULLqbX ABOVE",
    "bVERTICAL TILDEbDOUBLE OVERLINEbGRAVE TONE MARKbACUTErbGREEK PERISPOMENIcKORONIS",
    "cDIALYTIKA TONOScYPOGEGRAMMENIbBRIDGE ABOVEbEQUALS SIGN BELOWbDOUBLE VERTICAL LINEq",
    "bLEFT ANGLEqbNOT TILDE ABOVEbHOMOTHETICqbALMOST EQUAL TOqbLEFT RIGHT ARROW BELOWbUPWARDSr",
    "bGRAPHEME JOINERbRIGHT ARROWHEAD ABOVEbLEFT HALF RINGqbFERMATAbX BELOWbLEFT ARROWHEADq",
    "bRIGHTrdAND UP ARROWHEADqcHALF RING ABOVEbDOT ABOVE RIGHTbASTERISK BELOWbDOUBLE RINGq",
    "bZIGZAG ABOVEbDOUBLE BREVE BELOWdcMACRONdBELOWcTILDEcINVERTED BREVEcRIGHTWARDS ARROW BELOW",
    "bLATIN SMALL LETTER AeEeIeOeUeCeDeHeMeReTeVeXaGREEK CAPITAL LETTER HETAbSMALLr",
    "bCAPITAL LETTER ARCHAIC SAMPIbSMALLsbNUMERAL SIGNbLOWERrbCAPITAL LETTER PAMPHYLIAN DIGAMMA",
    "bSMALLs"]⟩,
  ⟨0x37a, [
    "aGREEK YPOGEGRAMMENIbSMALL REVERSED LUNATE SIGMA SYMBOLcDOTTEDscREVERSEDtbQUESTION MARK",
    "bCAPITAL LETTER YOT"]⟩,
  ⟨0x384, [
    "aGREEK TONOSbDIALYTIKAqbCAPITAL LETTER ALPHA WITHqbANO TELEIA",
    "bCAPITAL LETTER EPSILON WITH TONOSdETArdIOTAr"]⟩,
  ⟨0x38c, ["aGREEK CAPITAL LETTER OMICRON WITH TONOS"]⟩,
  ⟨0x38e, [
    "aGREEK CAPITAL LETTER UPSILON WITH TONOSdOMEGArbSMALL LETTER IOTA WITH DIALYTIKA ANDq",
    "bCAPITAL LETTER ALPHAdBETAdGAMMAdDELTAdEPSILONdZETAdETAdTHETAdIOTAdKAPPAdLAMDAdMUdNUdXI",
    "dOMICRONdPIdRHO"]⟩,
  ⟨0x3a3, [
    "aGREEK CAPITAL LETTER SIGMAdTAUdUPSILONdPHIdCHIdPSIdOMEGAdIOTA WITH DIALYTIKAdUPSILONr",
    "bSMALL LETTER ALPHA WITH TONOSdEPSILONrdETArdIOTArdUPSILON WITH DIALYTIKA ANDqdALPHAdBETA",
    "dGAMMAdDELTAdEPSILONdZETAdETAdTHETAdIOTAdKAPPAdLAMDAdMUdNUdXIdOMICRONdPIdRHOdFINAL SIGMAdq",
    "dTAUdUPSILONdPHIdCHIdPSIdOMEGAdIOTA WITH DIALYTIKAdUPSILONrdOMICRON WITH TONOSdUPSILONr",
    "dOMEGArbCAPITAL KAI SYMBOLbBETAqbTHETAqbUPSILON WITH HOOKqdACUTE ANDrdDIAERESISsbPHIqbPIq",
    "bKAIqbLETTER ARCHAIC KOPPAbSMALLsbLETTER STIGMAbSMALLrbLETTER DIGAMMAbSMALLrbLETTER KOPPA",
    "bSMALLrbLETTER SAMPIbSMALLraCOPTIC CAPITAL LETTER SHEIbSMALLrbCAPITAL LETTER FEIbSMALLr",
    "bCAPITAL LETTER KHEIbSMALLrbCAPITAL LETTER HORIbSMALLrbCAPITAL LETTER GANGIAbSMALLr",
    "bCAPITAL LETTER SHIMAbSMALLrbCAPITAL LETTER DEIbSMALLraGREEK KAPPA SYMBOLbRHOq",
    "bLUNATE SIGMAqbLETTER YOTbCAPITAL THETA SYMBOLbLUNATE EPSILONqbREVERSEDsbCAPITAL LETTER SHO",
    "bSMALLrbCAPITAL LUNATE SIGMA SYMBOLcLETTER SANbSMALLrbRHO WITH STROKE SYMBOL",
    "bCAPITAL REVERSED LUNATE SIGMAqcDOTTEDscREVERSEDtaCYRILLIC CAPITAL LETTER IE WITH GRAVEdIO",
    "dDJEdGJEdUKRAINIAN IEdDZEdBYELORUSSIAN-UKRAINIAN IdYIdJEdLJEdNJEdTSHEdKJEdI WITH GRAVE",
    "dSHORT UdDZHEdAdBEdVEdGHEdDEdIEdZHEdZEdIdSHORTqdKAdELdEMdENdOdPEdERdESdTEdUdEFdHAdTSEdCHE",
    "dSHAdSHCHAdHARD SIGNdYERUdSOFT SIGNdEdYUdYAbSMALL LETTER AdBEdVEdGHEdDEdIEdZHEdZEdIdSHORTq",
    "dKAdELdEMdENdOdPEdERdESdTEdUdEFdHAdTSEdCHEdSHAdSHCHAdHARD SIGNdYERUdSOFT SIGNdEdYUdYA",
    "dIE WITH GRAVEdIOdDJEdGJEdUKRAINIAN IEdDZEdBYELORUSSIAN-UKRAINIAN IdYIdJEdLJEdNJEdTSHEdKJE",
    "dI WITH GRAVEdSHORT UdDZHEbCAPITAL LETTER OMEGAbSMALLrbCAPITAL LETTER YATbSMALLr",
    "bCAPITAL LETTER IOTIFIED EbSMALLsbCAPITAL LETTER LITTLE YUSbSMALLsbCAPITAL LETTER IOTIFIEDr",
    "bSMALLtbCAPITAL LETTER BIGqbSMALLsbCAPITAL LETTER IOTIFIEDrbSMALLtbCAPITAL LETTER KSI",
    "bSMALLrbCAPITAL LETTER PSIbSMALLrbCAPITAL LETTER FITAbSMALLrbCAPITAL LETTER IZHITSAbSMALLr",
    "bCAPITAL LETTER IZHITSA WITH DOUBLE GRAVE ACCENTbSMALLvbCAPITAL LETTER UKbSMALLr",
    "bCAPITAL LETTER ROUND OMEGAbSMALLsbCAPITAL LETTER OMEGA WITH TITLObSMALLtbCAPITAL LETTER OT",
    "bSMALLrbCAPITAL LETTER KOPPAbSMALLrbTHOUSANDS SIGNaCOMBINING CYRILLIC TITLOcPALATALIZATION",
    "cDASIA PNEUMATAcPSILIqcPOKRYTIEcHUNDRED THOUSANDS SIGNcMILLIONSq",
    "aCYRILLIC CAPITAL LETTER SHORT I WITH TAILbSMALLubCAPITAL LETTER SEMISOFT SIGNbSMALLs",
    "bCAPITAL LETTER ER WITH TICKbSMALLtbCAPITAL LETTER GHE WITH UPTURNbSMALLt",
    "bCAPITAL LETTER GHE WITH STROKEbSMALLtbCAPITAL LETTER GHE WITH MIDDLE HOOKbSMALLu",
    "bCAPITAL LETTER ZHE WITH DESCENDERbSMALLtbCAPITAL LETTER ZErbSMALLtbCAPITAL LETTER KAr",
    "bSMALLtbCAPITAL LETTER KA WITH VERTICAL STROKEbSMALLubCAPITAL LETTER KA WITHqbSMALLt",
    "bCAPITAL LETTER BASHKIR KAbSMALLsbCAPITAL LETTER EN WITH DESCENDERbSMALLt",
    "bCAPITAL LIGATURE EN GHEbSMALLsbCAPITAL LETTER PE WITH MIDDLE HOOKbSMALLu",
    "bCAPITAL LETTER ABKHASIAN HAbSMALLsbCAPITAL LETTER ES WITH DESCENDERbSMALLt",
    "bCAPITAL LETTER TErbSMALLtbCAPITAL LETTER STRAIGHT UbSMALLs",
    "bCAPITAL LETTER STRAIGHT U WITH STROKEbSMALLubCAPITAL LETTER HA WITH DESCENDERbSMALLt",
    "bCAPITAL LIGATURE TE TSEbSMALLsbCAPITAL LETTER CHE WITH DESCENDERbSMALLt",
    "bCAPITAL LETTER CHE WITH VERTICAL STROKEbSMALLubCAPITAL LETTER SHHAbSMALLr",
    "bCAPITAL LETTER ABKHASIAN CHEbSMALLsbCAPITAL LETTER ABKHASIAN CHE WITH DESCENDERbSMALLu",
    "bLETTER PALOCHKAbCAPITAL LETTER ZHE WITH BREVEbSMALLtbCAPITAL LETTER KA WITH HOOKbSMALLt",
    "bCAPITAL LETTER EL WITH TAILbSMALLtbCAPITAL LETTER EN WITH HOOKbSMALLt",
    "bCAPITAL LETTER EN WITH TAILbSMALLtbCAPITAL LETTER KHAKASSIAN CHEbSMALLs",
    "bCAPITAL LETTER EM WITH TAILbSMALLtdPALOCHKAbCAPITAL LETTER A WITH BREVEbSMALLt",
    "bCAPITAL LETTER A WITH DIAERESISbSMALLtbCAPITAL LIGATURE A IEbSMALLs",
    "bCAPITAL LETTER IE WITH BREVEbSMALLtbCAPITAL LETTER SCHWAbSMALLr",
    "bCAPITAL LETTER SCHWA WITH DIAERESISbSMALLtbCAPITAL LETTER ZHErbSMALLtbCAPITAL LETTER ZEr",
    "bSMALLtbCAPITAL LETTER ABKHASIAN DZEbSMALLsbCAPITAL LETTER I WITH MACRONbSMALLt",
    "bCAPITAL LETTER I WITH DIAERESISbSMALLtbCAPITAL LETTER OrbSMALLtbCAPITAL LETTER BARRED O",
    "bSMALLsbCAPITAL LETTER BARRED O WITH DIAERESISbSMALLubCAPITAL LETTER ErbSMALLt",
    "bCAPITAL LETTER U WITH MACRONbSMALLtbCAPITAL LETTER U WITH DIAERESISbSMALLt",
    "bCAPITAL LETTER U WITH DOUBLE ACUTEbSMALLubCAPITAL LETTER CHE WITH DIAERESISbSMALLt",
    "bCAPITAL LETTER GHE WITH DESCENDERbSMALLtbCAPITAL LETTER YERU WITH DIAERESISbSMALLt",
    "bCAPITAL LETTER GHE WITH STROKE AND HOOKbSMALLvbCAPITAL LETTER HA WITHqbSMALLt",
    "bCAPITAL LETTER HA WITH STROKEbSMALLtbCAPITAL LETTER KOMI DEbSMALLsbCAPITAL LETTER KOMI DJE",
    "bSMALLsbCAPITAL LETTER KOMI ZJEbSMALLsbCAPITAL LETTER KOMI DZJEbSMALLs",
    "bCAPITAL LETTER KOMI LJEbSMALLsbCAPITAL LETTER KOMI NJEbSMALLsbCAPITAL LETTER KOMI SJE",
    "bSMALLsbCAPITAL LETTER KOMI TJEbSMALLsbCAPITAL LETTER REVERSED ZEbSMALLs",
    "bCAPITAL LETTER EL WITH HOOKbSMALLtbCAPITAL LETTER LHAbSMALLrbCAPITAL LETTER RHAbSMALLr",
    "bCAPITAL LETTER YAEbSMALLrbCAPITAL LETTER QAbSMALLrbCAPITAL LETTER WEbSMALLr",
    "bCAPITAL LETTER ALEUT KAbSMALLsbCAPITAL LETTER EL WITH MIDDLE HOOKbSMALLu",
    "bCAPITAL LETTER ENsbSMALLubCAPITAL LETTER PE WITH DESCENDERbSMALLtbCAPITAL LETTER SHHAr",
    "bSMALLtbCAPITAL LETTER EN WITH LEFT HOOKbSMALLubCAPITAL LETTER DZZHEbSMALLr",
    "bCAPITAL LETTER DCHEbSMALLrbCAPITAL LETTER EL WITH DESCENDERbSMALLt"]⟩,
  ⟨0x531, [
    "aARMENIAN CAPITAL LETTER AYBdBENdGIMdDAdECHdZAdEHdETdTOdZHEdINIdLIWNdXEHdCAdKENdHOdJAdGHAD",
    "dCHEHdMENdYIdNOWdSHAdVOdCHAdPEHdJHEHdRAdSEHdVEWdTIWNdREHdCOdYIWNdPIWRdKEHdOHdFEH"]⟩,
  ⟨0x559, [
    "aARMENIAN MODIFIER LETTER LEFT HALF RINGbAPOSTROPHEbEMPHASIS MARKbEXCLAMATIONqbCOMMA",
    "bQUESTION MARKbABBREVIATIONqbSMALL LETTER TURNED AYBdqdBENdGIMdDAdECHdZAdEHdETdTOdZHEdINI",
    "dLIWNdXEHdCAdKENdHOdJAdGHADdCHEHdMENdYIdNOWdSHAdVOdCHAdPEHdJHEHdRAdSEHdVEWdTIWNdREHdCOdYIWN",
    "dPIWRdKEHdOHdFEHcLIGATURE ECH YIWNcLETTER YI WITH STROKEbFULL STOPbHYPHEN"]⟩,
  ⟨0x58d, ["aRIGHT-FACING ARMENIAN ETERNITY SIGNaLEFT-FACINGsaARMENIAN DRAMq"]⟩,
  ⟨0x591, [
    "aHEBREW ACCENT ETNAHTAcSEGOLcSHALSHELETcZAQEF QATANdGADOLcTIPEHAcREVIAcZARQAcPASHTAcYETIV",
    "cTEVIRcGERESHdMUQDAMcGERSHAYIMcQARNEY PARAcTELISHA GEDOLAcPAZERcATNAH HAFUKHcMUNAHcMAHAPAKH",
    "cMERKHAdKEFULAcDARGAcQADMAcTELISHA QETANAcYERAH BEN YOMOcOLEcILUYcDEHIcZINOR",
    "bMARK MASORA CIRCLEbPOINT SHEVAcHATAF SEGOLdPATAHdQAMATScHIRIQcTSEREcSEGOLcPATAHcQAMATS",
    "cHOLAMdHASER FOR VAVcQUBUTScDAGESH OR MAPIQcMETEGbPUNCTUATION MAQAFbPOINT RAFE",
    "bPUNCTUATION PASEQbPOINT SHIN DOTcSINqbPUNCTUATION SOF PASUQbMARK UPPER DOTcLOWERq",
    "bPUNCTUATION NUN HAFUKHAbPOINT QAMATS QATAN"]⟩,
  ⟨0x5d0, [
    "aHEBREW LETTER ALEFcBETcGIMELcDALETcHEcVAVcZAYINcHETcTETcYODcFINAL KAFcqcLAMEDcFINAL MEMcq",
    "cFINAL NUNcqcSAMEKHcAYINcFINAL PEcqcFINAL TSADIcqcQOFcRESHcSHINcTAV"]⟩,
  ⟨0x5ef, [
    "aHEBREW YOD TRIANGLEbLIGATURE YIDDISH DOUBLE VAVdVAV YODdDOUBLEqbPUNCTUATION GERESH",
    "cGERSHAYIM"]⟩,
  ⟨0x600, [
    "aARABIC NUMBER SIGNbSIGN SANAHbFOOTNOTE MARKERbSIGN SAFHAcSAMVATbNUMBER MARK ABOVE",
    "aARABIC-INDIC CUBE ROOTbFOURTHqaARABIC RAYaARABIC-INDIC PER MILLE SIGNcTEN THOUSANDq",
    "aAFGHANIqaARABIC COMMAbDATE SEPARATORbPOETIC VERSE SIGNbSIGN MISRA",
    "cSALLALLAHOU ALAYHE WASSALLAMcALAYHE ASSALLAMcRAHMATULLAH ALAYHEcRADI ALLAHOU ANHU",
    "cTAKHALLUSbSMALL HIGH TAHdLIGATURE ALEF WITH LAM WITH YEHdZAINcFATHAcDAMMAcKASRAbSEMICOLON",
    "bLETTER MARKbEND OF TEXTqbTRIPLE DOT PUNCTUATIONqbQUESTIONqbLETTER KASHMIRI YEHcHAMZA",
    "cALEF WITH MADDA ABOVEeHAMZAqcWAWscALEF WITH HAMZA BELOWcYEH WITH HAMZA ABOVEcALEFcBEH",
    "cTEH MARBUTAdcTHEHcJEEMcHAHcKHAHcDALcTHALcREHcZAINcSEENcSHEENcSADcDADcTAHcZAHcAINcGHAIN",
    "cKEHEH WITH TWO DOTS ABOVEeTHREE DOTS BELOWcFARSI YEH WITH INVERTED VfTWO DOTS ABOVEfTHREEr",
    "bTATWEELbLETTER FEHcQAFcKAFcLAMcMEEMcNOONcHEHcWAWcALEF MAKSURAcYEHbFATHATANbDAMMATAN",
    "bKASRATANbFATHAbDAMMAbKASRAbSHADDAbSUKUNbMADDAH ABOVEbHAMZAqcBELOWbSUBSCRIPT ALEF",
    "bINVERTED DAMMAbMARK NOON GHUNNAbZWARAKAYbVOWEL SIGN SMALL V ABOVEdINVERTEDsdDOT BELOW",
    "bREVERSED DAMMAbFATHA WITH TWO DOTSbWAVY HAMZA BELOWaARABIC-INDIC DIGIT ZEROcONEcTWOcTHREE",
    "cFOURcFIVEcSIXcSEVENcEIGHTcNINEaARABIC PERCENT SIGNbDECIMAL SEPARATORbTHOUSANDSq",
    "bFIVE POINTED STARbLETTER DOTLESS BEHdQAFcSUPERSCRIPT ALEFcALEF WASLAdWITH WAVY HAMZA ABOVE",
    "gBELOWcHIGH HAMZAeALEFeWAWcU WITH HAMZA ABOVEcHIGH HAMZA YEHcTTEHcTTEHEHcBEEHcTEH WITH RING",
    "eTHREE DOTS ABOVE DOWNWARDScPEHcTEHEHcBEHEHcHAH WITH HAMZA ABOVEeTWO DOTS VERTICALqcNYEH",
    "cDYEHcHAH WITH THREE DOTS ABOVEcTCHEHcTCHEHEHcDDALcDAL WITH RINGeDOT BELOWgAND SMALL TAH",
    "cDAHALcDDAHALcDULcDAL WITH THREE DOTS ABOVE DOWNWARDSeFOUR DOTS ABOVEcRREHcREH WITH SMALL V",
    "eRINGeDOT BELOWeSMALL VqeDOT BELOW AND DOT ABOVEeTWO DOTSqcJEHcREH WITH FOUR DOTS ABOVE",
    "cSEEN WITH DOT BELOW AND DOTqeTHREE DOTS BELOWhAND THREE DOTS ABOVEcSAD WITH TWO DOTS BELOW",
    "eTHREE DOTS ABOVEcTAHtcAINtcDOTLESS FEHcFEH WITH DOT MOVED BELOWfqcVEH",
    "cFEH WITH THREE DOTS BELOWcPEHEHcQAF WITH DOT ABOVEeTHREE DOTSqcKEHEHcSWASH KAF",
    "cKAF WITH RINGeDOT ABOVEcNGcKAF WITH THREE DOTS BELOWcGAFdWITH RINGcNGOEH",
    "cGAF WITH TWO DOTS BELOWcGUEHcGAF WITH THREE DOTS ABOVEcLAM WITH SMALL VeDOT ABOVE",
    "eTHREE DOTSqgBELOWcNOON WITH DOTqdGHUNNAcRNOONcNOON WITH RINGeTHREE DOTS ABOVE",
    "cHEH DOACHASHMEEcTCHEH WITH DOT ABOVEcHEH WITH YEHqdGOALeWITH HAMZA ABOVEcTEH MARBUTA GOAL",
    "cWAW WITH RINGcKIRGHIZ OEcqcUcYUcKIRGHIZqcWAW WITH TWO DOTS ABOVEcVEcFARSI YEH",
    "cYEH WITH TAILeSMALL VcWAW WITH DOT ABOVEcEcYEH WITH THREE DOTS BELOWdBARREE",
    "eWITH HAMZA ABOVEbFULL STOPbLETTER AEbSMALL HIGH LIGATURE SAD WITH LAM WITH ALEF MAKSURA",
    "eQAFudMEEM INITIAL FORMdLAM ALEFdJEEMdTHREE DOTSdSEENbEND OF AYAHbSTART OF RUB EL HIZB",
    "bSMALL HIGH ROUNDED ZEROdUPRIGHT RECTANGULARqdDOTLESS HEAD OF KHAHdMEEM ISOLATED FORM",
    "cLOW SEENcHIGH MADDAcWAWcYEHcHIGHqdNOONbPLACE OF SAJDAHbEMPTY CENTRE LOW STOPdHIGHq",
    "bROUNDED HIGH STOP WITH FILLED CENTREbSMALL LOW MEEMbLETTER DAL WITH INVERTED VcREHs",
    "aEXTENDED ARABIC-INDIC DIGIT ZEROdONEdTWOdTHREEdFOURdFIVEdSIXdSEVENdEIGHTdNINE",
    "aARABIC LETTER SHEEN WITH DOT BELOWcDADscGHAINsbSIGN SINDHI AMPERSANDdPOSTPOSITION MEN",
    "bLETTER HEH WITH INVERTED VaSYRIAC END OF PARAGRAPHbSUPRALINEAR FULL STOPbSUBLINEARr",
    "bSUPRALINEAR COLONbSUBLINEARqbHORIZONTALqbCOLON SKEWED LEFTdRIGHT",
    "bSUPRALINEAR COLON SKEWED LEFTbSUBLINEAR COLON SKEWED RIGHTbCONTRACTIONbHARKLEAN OBELUS",
    "cMETOBELUScASTERISCUS"]⟩,
  ⟨0x70f, [
    "aSYRIAC ABBREVIATION MARKbLETTER ALAPHcSUPERSCRIPTqcBETHcGAMALdGARSHUNIcDALATH",
    "cDOTLESS DALATH RISHcHEcWAWcZAINcHETHcTETHdGARSHUNIcYUDHdHEcKAPHcLAMADHcMIMcNUNcSEMKATH",
    "cFINALqcEcPEcREVERSEDqcSADHEcQAPHcRISHcSHINcTAWcPERSIAN BHETHdGHAMALdDHALATHbPTHAHA ABOVE",
    "cBELOWcDOTTEDbZQAPHA ABOVEcBELOWcDOTTEDbRBASA ABOVEcBELOWbDOTTED ZLAMA HORIZONTALdANGULAR",
    "bHBASA ABOVEcBELOWbHBASA-ESASA DOTTEDbESASA ABOVEcBELOWbRWAHAbFEMININE DOTbQUSHSHAYA",
    "bRUKKAKHAbTWO VERTICAL DOTS ABOVEeBELOWbTHREE DOTS ABOVEdBELOWbOBLIQUE LINE ABOVEdBELOW",
    "bMUSICbBARREKH"]⟩,
  ⟨0x74d, [
    "aSYRIAC LETTER SOGDIAN ZHAINdKHAPHdFEaARABIC LETTER BEH WITH THREE DOTS HORIZONTALLY BELOW",
    "eDOT BELOW AND THREE DOTS ABOVEeTHREE DOTS POINTING UPWARDS BELOWjAND TWO DOTS ABOVE",
    "eTWO DOTS BELOW AND DOTqeINVERTED SMALL V BELOWeSMALL VcHAH WITH TWO DOTS ABOVE",
    "eTHREE DOTS POINTING UPWARDS BELOWcDAL WITH TWO DOTS VERTICALLY BELOW AND SMALL TAH",
    "eINVERTED SMALL V BELOWcREH WITH STROKEcSEEN WITH FOUR DOTS ABOVEcAIN WITH TWOr",
    "eTHREE DOTS POINTING DOWNWARDSqeTWO DOTS VERTICALLYqcFEH WITH TWO DOTS BELOW",
    "eTHREE DOTS POINTING UPWARDSqcKEHEH WITH DOT ABOVEeTHREE DOTSqgPOINTING UPWARDS BELOW",
    "cMEEM WITH DOT ABOVEfBELOWcNOON WITH TWO DOTSqeSMALL TAHfVcLAM WITH BAR",
    "cREH WITH TWO DOTS VERTICALLY ABOVEeHAMZAqcSEEN WITH TWO DOTS VERTICALLYq",
    "cHAH WITH SMALL ARABIC LETTER TAH BELOWiAND TWO DOTScSEENxcREHx",
    "cHAH WITH SMALL ARABIC LETTER TAH ABOVEcALEF WITH EXTENDED ARABIC-INDIC DIGIT TWOqhTHREEq",
    "cFARSI YEH WITH EXTENDED ARABIC-INDIC DIGIT TWOqiTHREEqiFOUR BELOW",
    "cWAW WITH EXTENDED ARABIC-INDIC DIGIT TWO ABOVEhTHREEq",
    "cYEH BARREE WITH EXTENDED ARABIC-INDIC DIGIT TWOqiTHREEq",
    "cHAH WITH EXTENDED ARABIC-INDIC DIGIT FOUR BELOW",
    "cSEEN WITH EXTENDED ARABIC-INDIC DIGIT FOUR ABOVEeINVERTED VcKAF WITH TWO DOTS ABOVE",
    "aTHAANA LETTER HAAcSHAVIYANIcNOONUcRAAcBAAcLHAVIYANIcKAAFUcALIFUcVAAVUcMEEMUcFAAFUcDHAALU",
    "cTHAAcLAAMUcGAAFUcGNAVIYANIcSEENUcDAVIYANIcZAVIYANIcTAVIYANIcYAAcPAVIYANIcJAVIYANI",
    "cCHAVIYANIcTTAAcHHAAcKHAAcTHAALUcZAAcSHEENUcSAADHUcDAADHUcTOcZOcAINUcGHAINUcQAAFUcWAAVU",
    "bABAFILIbAABAAFILIbIBIFILIbEEBEEFILIbUBUFILIbOOBOOFILIbEBEFILIbEYBEYFILIbOBOFILIbOABOAFILI",
    "bSUKUNbLETTER NAA"]⟩,
  ⟨0x7c0, [
    "aNKO DIGIT ZEROcONEcTWOcTHREEcFOURcFIVEcSIXcSEVENcEIGHTcNINEbLETTER AcEEcIcEcUcOOcO",
    "cDAGBASINNAcNcBAcPAcTAcJAcCHAcDAcRAcRRAcSAcGBAcFAcKAcLAcNA WOLOSOcMAcNYAcNAcHAcWAcYA",
    "cNYA WOLOSOcJONA JAdCHAdRAbCOMBINING SHORT HIGH TONEdLOWqdRISINGqcLONG DESCENDINGqdHIGHq",
    "dLOWqdRISINGqcNASALIZATION MARKcDOUBLE DOT ABOVEbHIGH TONE APOSTROPHEbLOWrbSYMBOL OO DENNEN",
    "cGBAKURUNENbCOMMAbEXCLAMATION MARKbLAJANYALAN"]⟩,
  ⟨0x7fd, [
    "aNKO DANTAYALANbDOROME SIGNbTAMANqaSAMARITAN LETTER ALAFcBITcGAMANcDALATcIYcBAAcZENcITcTIT",
    "cYUTcKAAFcLABATcMIMcNUNcSINGAATcINcFIcTSAADIYcQUFcRISHcSHANcTAAFbMARK INcIN-ALAFcOCCLUSION",
    "cDAGESHbMODIFIER LETTER EPENTHETIC YUTbMARKrbVOWEL SIGN LONG EdqdOVERLONG AAdLONGqdq",
    "dOVERLONG AdLONGqdqbMODIFIER LETTER SHORTqbVOWEL SIGNrdLONG UdqbMODIFIER LETTER I",
    "bVOWEL SIGN LONGqdqdOdSUKUNbMARK NEQUDAA"]⟩,
  ⟨0x830, [
    "aSAMARITAN PUNCTUATION NEQUDAAcAFSAAQcANGEDcBAUcATMAAUcSHIYYAALAAbABBREVIATION MARK",
    "bPUNCTUATION MELODIC QITSAcZIQAAcQITSAcZAEFcTURUcARKAANUcSOF MASHFAATcANNAAU"]⟩,
  ⟨0x840, [
    "aMANDAIC LETTER HALQAcABcAGcADcAHcUSHENNAcAZcITcATTcAKSAcAKcALcAMcANcAScINcAPcASZcAQcARcASH",
    "cATcDUSHENNAcKADcAINbAFFRICATION MARKbVOCALIZATIONqbGEMINATIONq"]⟩,
  ⟨0x85e, ["aMANDAIC PUNCTUATION"]⟩,
  ⟨0x860, ["aSYRIAC LETTER MALAYALAM NGAdJAdNYAdTTAdNNAdNNNAdBHAdRAdLLAdLLLAdSSA"]⟩,
  ⟨0x870, [
    "aARABIC LETTER ALEF WITH ATTACHED FATHAfTOP RIGHTqeRIGHT MIDDLE STROKEeLEFTreATTACHED KASRA",
    "fBOTTOM RIGHTqfROUND DOT ABOVEfRIGHT ROUND DOTfLEFTrfROUND DOT BELOWeDOT ABOVE",
    "eATTACHED TOP RIGHT FATHA ANDreRIGHT MIDDLE STROKEseATTACHED BOTTOM RIGHT KASRAs",
    "fTOP RIGHT FATHA AND LEFT RINGeRIGHT MIDDLE STROKEseATTACHED BOTTOM RIGHT KASRAs",
    "fRIGHT HAMZAfLEFTqbTATWEEL WITH OVERSTRUCKqeWAWdTWO DOTS BELOWbLETTER THIN YEH",
    "bBASELINE ROUND DOTbRAISEDrbLETTER NOON WITH INVERTED SMALL V",
    "cHAH WITH INVERTED SMALL V BELOWcTAH WITH DOTqeTHREE DOTSqcKEHEH WITH TWO DOTS VERTICALLYq",
    "bVERTICAL TAIL"]⟩,
  ⟨0x890, ["aARABIC POUND MARK ABOVEbPIASTREr"]⟩,
  ⟨0x898, [
    "aARABIC SMALL HIGH WORD AL-JUZcLOW WORD ISHMAAMeIMAALAeTASHEELbMADDA WAAJIB",
    "bSUPERSCRIPT ALEF MOKHASSASbDOUBLED MADDAbHALF MADDA OVERqbLETTER BEH WITH SMALL V BELOW",
    "eHAMZA ABOVEcJEEM WITH TWO DOTSqcTAHtcFEH WITH DOT BELOW AND THREErcQAF WITH DOT BELOW",
    "cLAM WITH DOUBLE BARcMEEM WITH THREE DOTS ABOVEcYEH WITH TWO DOTS BELOW AND HAMZAqiDOTq",
    "cREH WITH LOOPcWAW WITH DOT WITHINcROHINGYA YEHcLOW ALEFcDAL WITH THREE DOTS BELOWcSADt",
    "cGAF WITH INVERTED STROKEcSTRAIGHT WAWcZAIN WITH INVERTED V ABOVEcAIN WITH THREE DOTS BELOW",
    "cKAF WITH DOTqcQAF WITH DOT BELOW AND NO DOTS ABOVEcBEH WITH SMALL MEEMqcPEHt",
    "cTEH WITH SMALL TEHqcREH WITH SMALL NOONqcYEH WITH TWO DOTS BELOW ANDscAFRICAN FEHdQAFdNOON",
    "cPEH WITH SMALL VcTEHscTTEHscTCHEHscKEHEHscGHAIN WITH THREE DOTS ABOVEcAFRICAN QAFtcJEEMt",
    "gBELOWcLAM WITH SMALL ARABIC LETTER TAH ABOVEcGRAFbSMALL FARSI YEHcHIGHr",
    "dYEH BARREE WITH TWO DOTS BELOWdWORD SAHdZAHbLARGE ROUND DOT ABOVEeBELOWbSUKUNq",
    "bLARGE CIRCLEqcROUND DOT INSIDErbSMALL LOW WAWcHIGH WORD AR-RUBdSADdAINdQAFdNOON WITH KASRA",
    "cLOWscHIGH WORD ATH-THALATHAeAS-SAJDAeAN-NISFeSAKTAeQIFeWAQFAdFOOTNOTE MARKERdSIGN SAFHA",
    "bDISPUTED END OF AYAHbTURNED DAMMA BELOWbCURLY FATHAcDAMMAcKASRAcFATHATANcDAMMATANcKASRATAN",
    "bTONE ONE DOT ABOVEcTWO DOTSqcLOOPqcONE DOT BELOWcTWO DOTSqcLOOPqbOPEN FATHATANcDAMMATAN",
    "cKASRATANbSMALL HIGH WAWbFATHA WITH RINGdDOT ABOVEbKASRA WITH DOT BELOW",
    "bLEFT ARROWHEAD ABOVEbRIGHTrbLEFT ARROWHEAD BELOWbRIGHTrbDOUBLE RIGHT ARROWHEAD ABOVE",
    "fWITH DOTbubDAMMArbMARK SIDEWAYS NOON GHUNNAaDEVANAGARI SIGN INVERTED CANDRABINDUcq",
    "cANUSVARAcVISARGAbLETTER SHORT AcqcAAcIcIIcUcUUcVOCALIC RdLcCANDRA EcSHORTqcqcAIcCANDRA O",
    "cSHORTqcqcAUcKAcKHAcGAcGHAcNGAcCAcCHAcJAcJHAcNYAcTTAcTTHAcDDAcDDHAcNNAcTAcTHAcDAcDHAcNA",
    "cNNNAcPAcPHAcBAcBHAcMAcYAcRAcRRAcLAcLLAcLLLAcVAcSHAcSSAcSAcHAbVOWEL SIGN OEdOOEbSIGN NUKTA",
    "cAVAGRAHAbVOWEL SIGN AAdIdIIdUdUUdVOCALIC ReRRdCANDRA EdSHORTqdqdAIdCANDRA OdSHORTqdqdAU",
    "bSIGN VIRAMAbVOWEL SIGN PRISHTHAMATRA EdAWbOMbSTRESS SIGN UDATTAdANUDATTAbGRAVE ACCENT",
    "bACUTEqbVOWEL SIGN CANDRA LONG EdUEdUUEbLETTER QAcKHHAcGHHAcZAcDDDHAcRHAcFAcYYAcVOCALIC RR",
    "dLLbVOWEL SIGN VOCALIC LeLLbDANDAbDOUBLEqbDIGIT ZEROcONEcTWOcTHREEcFOURcFIVEcSIXcSEVEN",
    "cEIGHTcNINEbABBREVIATION SIGNbSIGN HIGH SPACING DOTbLETTER CANDRA AcOEcOOEcAWcUEcUUE",
    "cMARWARI DDAcZHAcHEAVY YAcGGAcJJAcGLOTTAL STOPcDDDAcBBAaBENGALI ANJIbSIGN CANDRABINDU",
    "cANUSVARAcVISARGA"]⟩,
  ⟨0x985, ["aBENGALI LETTER AcAAcIcIIcUcUUcVOCALIC RdL"]⟩, ⟨0x98f, ["aBENGALI LETTER EcAI"]⟩,
  ⟨0x993, [
    "aBENGALI LETTER OcAUcKAcKHAcGAcGHAcNGAcCAcCHAcJAcJHAcNYAcTTAcTTHAcDDAcDDHAcNNAcTAcTHAcDA",
    "cDHAcNA"]⟩,
  ⟨0x9aa, ["aBENGALI LETTER PAcPHAcBAcBHAcMAcYAcRA"]⟩, ⟨0x9b2, ["aBENGALI LETTER LA"]⟩,
  ⟨0x9b6, ["aBENGALI LETTER SHAcSSAcSAcHA"]⟩,
  ⟨0x9bc, ["aBENGALI SIGN NUKTAcAVAGRAHAbVOWEL SIGN AAdIdIIdUdUUdVOCALIC ReRR"]⟩,
  ⟨0x9c7, ["aBENGALI VOWEL SIGN EdAI"]⟩,
  ⟨0x9cb, ["aBENGALI VOWEL SIGN OdAUbSIGN VIRAMAbLETTER KHANDA TA"]⟩,
  ⟨0x9d7, ["aBENGALI AU LENGTH MARK"]⟩, ⟨0x9dc, ["aBENGALI LETTER RRAcRHA"]⟩,
  ⟨0x9df, ["aBENGALI LETTER YYAcVOCALIC RRdLLbVOWEL SIGN VOCALIC LeLL"]⟩,
  ⟨0x9e6, [
    "aBENGALI DIGIT ZEROcONEcTWOcTHREEcFOURcFIVEcSIXcSEVENcEIGHTcNINE",
    "bLETTER RA WITH MIDDLE DIAGONALeLOWERqbRUPEE MARKcSIGNbCURRENCY NUMERATOR ONEdTWOdTHREE",
    "dFOURdONE LESS THAN THE DENOMINATORcDENOMINATOR SIXTEENbISSHARbGANDA MARK",
    "bLETTER VEDIC ANUSVARAbABBREVIATION SIGNbSANDHI MARK"]⟩,
  ⟨0xa01, ["aGURMUKHI SIGN ADAK BINDIcqcVISARGA"]⟩, ⟨0xa05, ["aGURMUKHI LETTER AcAAcIcIIcUcUU"]⟩,
  ⟨0xa0f, ["aGURMUKHI LETTER EEcAI"]⟩,
  ⟨0xa13, [
    "aGURMUKHI LETTER OOcAUcKAcKHAcGAcGHAcNGAcCAcCHAcJAcJHAcNYAcTTAcTTHAcDDAcDDHAcNNAcTAcTHAcDA",
    "cDHAcNA"]⟩,
  ⟨0xa2a, ["aGURMUKHI LETTER PAcPHAcBAcBHAcMAcYAcRA"]⟩, ⟨0xa32, ["aGURMUKHI LETTER LAcLLA"]⟩,
  ⟨0xa35, ["aGURMUKHI LETTER VAcSHA"]⟩, ⟨0xa38, ["aGURMUKHI LETTER SAcHA"]⟩,
  ⟨0xa3c, ["aGURMUKHI SIGN NUKTA"]⟩, ⟨0xa3e, ["aGURMUKHI VOWEL SIGN AAdIdIIdUdUU"]⟩,
  ⟨0xa47, ["aGURMUKHI VOWEL SIGN EEdAI"]⟩, ⟨0xa4b, ["aGURMUKHI VOWEL SIGN OOdAUbSIGN VIRAMA"]⟩,
  ⟨0xa51, ["aGURMUKHI SIGN UDAAT"]⟩, ⟨0xa59, ["aGURMUKHI LETTER KHHAcGHHAcZAcRRA"]⟩,
  ⟨0xa5e, ["aGURMUKHI LETTER FA"]⟩,
  ⟨0xa66, [
    "aGURMUKHI DIGIT ZEROcONEcTWOcTHREEcFOURcFIVEcSIXcSEVENcEIGHTcNINEbTIPPIbADDAKbIRIbURA",
    "bEK ONKARbSIGN YAKASHbABBREVIATION SIGN"]⟩,
  ⟨0xa81, ["aGUJARATI SIGN CANDRABINDUcANUSVARAcVISARGA"]⟩,
  ⟨0xa85, ["aGUJARATI LETTER AcAAcIcIIcUcUUcVOCALIC RdLbVOWEL CANDRA E"]⟩,
  ⟨0xa8f, ["aGUJARATI LETTER EcAIbVOWEL CANDRA O"]⟩,
  ⟨0xa93, [
    "aGUJARATI LETTER OcAUcKAcKHAcGAcGHAcNGAcCAcCHAcJAcJHAcNYAcTTAcTTHAcDDAcDDHAcNNAcTAcTHAcDA",
    "cDHAcNA"]⟩,
  ⟨0xaaa, ["aGUJARATI LETTER PAcPHAcBAcBHAcMAcYAcRA"]⟩, ⟨0xab2, ["aGUJARATI LETTER LAcLLA"]⟩,
  ⟨0xab5, ["aGUJARATI LETTER VAcSHAcSSAcSAcHA"]⟩,
  ⟨0xabc, ["aGUJARATI SIGN NUKTAcAVAGRAHAbVOWEL SIGN AAdIdIIdUdUUdVOCALIC ReRRdCANDRA E"]⟩,
  ⟨0xac7, ["aGUJARATI VOWEL SIGN EdAIdCANDRA O"]⟩,
  ⟨0xacb, ["aGUJARATI VOWEL SIGN OdAUbSIGN VIRAMA"]⟩, ⟨0xad0, ["aGUJARATI OM"]⟩,
  ⟨0xae0, ["aGUJARATI LETTER VOCALIC RRdLLbVOWEL SIGN VOCALIC LeLL"]⟩,
  ⟨0xae6, [
    "aGUJARATI DIGIT ZEROcONEcTWOcTHREEcFOURcFIVEcSIXcSEVENcEIGHTcNINEbABBREVIATION SIGNbRUPEEq"]⟩,
  ⟨0xaf9, [
    "aGUJARATI LETTER ZHAbSIGN SUKUNcSHADDAcMADDAHcTHREE-DOT NUKTA ABOVEcCIRCLErcTWO-CIRCLEr"]⟩,
  ⟨0xb01, ["aORIYA SIGN CANDRABINDUcANUSVARAcVISARGA"]⟩,
  ⟨0xb05, ["aORIYA LETTER AcAAcIcIIcUcUUcVOCALIC RdL"]⟩, ⟨0xb0f, ["aORIYA LETTER EcAI"]⟩,
  ⟨0xb13, [
    "aORIYA LETTER OcAUcKAcKHAcGAcGHAcNGAcCAcCHAcJAcJHAcNYAcTTAcTTHAcDDAcDDHAcNNAcTAcTHAcDAcDHA",
    "cNA"]⟩,
  ⟨0xb2a, ["aORIYA LETTER PAcPHAcBAcBHAcMAcYAcRA"]⟩, ⟨0xb32, ["aORIYA LETTER LAcLLA"]⟩,
  ⟨0xb35, ["aORIYA LETTER VAcSHAcSSAcSAcHA"]⟩,
  ⟨0xb3c, ["aORIYA SIGN NUKTAcAVAGRAHAbVOWEL SIGN AAdIdIIdUdUUdVOCALIC ReRR"]⟩,
  ⟨0xb47, ["aORIYA VOWEL SIGN EdAI"]⟩, ⟨0xb4b, ["aORIYA VOWEL SIGN OdAUbSIGN VIRAMA"]⟩,
  ⟨0xb55, ["aORIYA SIGN OVERLINEbAI LENGTH MARKbAUr"]⟩, ⟨0xb5c, ["aORIYA LETTER RRAcRHA"]⟩,
  ⟨0xb5f, ["aORIYA LETTER YYAcVOCALIC RRdLLbVOWEL SIGN VOCALIC LeLL"]⟩,
  ⟨0xb66, [
    "aORIYA DIGIT ZEROcONEcTWOcTHREEcFOURcFIVEcSIXcSEVENcEIGHTcNINEbISSHARbLETTER WA",
    "bFRACTION ONE QUARTERdHALFcTHREE QUARTERScONE SIXTEENTHdEIGHTHcTHREE SIXTEENTHS"]⟩,
  ⟨0xb82, ["aTAMIL SIGN ANUSVARAcVISARGA"]⟩, ⟨0xb85, ["aTAMIL LETTER AcAAcIcIIcUcUU"]⟩,
  ⟨0xb8e, ["aTAMIL LETTER EcEEcAI"]⟩, ⟨0xb92, ["aTAMIL LETTER OcOOcAUcKA"]⟩,
  ⟨0xb99, ["aTAMIL LETTER NGAcCA"]⟩, ⟨0xb9c, ["aTAMIL LETTER JA"]⟩,
  ⟨0xb9e, ["aTAMIL LETTER NYAcTTA"]⟩, ⟨0xba3, ["aTAMIL LETTER NNAcTA"]⟩,
  ⟨0xba8, ["aTAMIL LETTER NAcNNNAcPA"]⟩,
  ⟨0xbae, ["aTAMIL LETTER MAcYAcRAcRRAcLAcLLAcLLLAcVAcSHAcSSAcSAcHA"]⟩,
  ⟨0xbbe, ["aTAMIL VOWEL SIGN AAdIdIIdUdUU"]⟩, ⟨0xbc6, ["aTAMIL VOWEL SIGN EdEEdAI"]⟩,
  ⟨0xbca, ["aTAMIL VOWEL SIGN OdOOdAUbSIGN VIRAMA"]⟩, ⟨0xbd0, ["aTAMIL OM"]⟩,
  ⟨0xbd7, ["aTAMIL AU LENGTH MARK"]⟩,
  ⟨0xbe6, [
    "aTAMIL DIGIT ZEROcONEcTWOcTHREEcFOURcFIVEcSIXcSEVENcEIGHTcNINEbNUMBER TENcONE HUNDRED",
    "dTHOUSANDbDAY SIGNbMONTHqbYEARqbDEBITqbCREDITqbAS ABOVEqbRUPEEqbNUMBERq"]⟩,
  ⟨0xc00, [
    "aTELUGU SIGN COMBINING CANDRABINDU ABOVEcCANDRABINDUcANUSVARAcVISARGA",
    "cCOMBINING ANUSVARA ABOVEbLETTER AcAAcIcIIcUcUUcVOCALIC RdL"]⟩,
  ⟨0xc0e, ["aTELUGU LETTER EcEEcAI"]⟩,
  ⟨0xc12, [
    "aTELUGU LETTER OcOOcAUcKAcKHAcGAcGHAcNGAcCAcCHAcJAcJHAcNYAcTTAcTTHAcDDAcDDHAcNNAcTAcTHAcDA",
    "cDHAcNA"]⟩,
  ⟨0xc2a, ["aTELUGU LETTER PAcPHAcBAcBHAcMAcYAcRAcRRAcLAcLLAcLLLAcVAcSHAcSSAcSAcHA"]⟩,
  ⟨0xc3c, ["aTELUGU SIGN NUKTAcAVAGRAHAbVOWEL SIGN AAdIdIIdUdUUdVOCALIC ReRR"]⟩,
  ⟨0xc46, ["aTELUGU VOWEL SIGN EdEEdAI"]⟩, ⟨0xc4a, ["aTELUGU VOWEL SIGN OdOOdAUbSIGN VIRAMA"]⟩,
  ⟨0xc55, ["aTELUGU LENGTH MARKbAIr"]⟩, ⟨0xc58, ["aTELUGU LETTER TSAcDZAcRRRA"]⟩,
  ⟨0xc5d, ["aTELUGU LETTER NAKAARA POLLU"]⟩,
  ⟨0xc60, ["aTELUGU LETTER VOCALIC RRdLLbVOWEL SIGN VOCALIC LeLL"]⟩,
  ⟨0xc66, ["aTELUGU DIGIT ZEROcONEcTWOcTHREEcFOURcFIVEcSIXcSEVENcEIGHTcNINE"]⟩,
  ⟨0xc77, [
    "aTELUGU SIGN SIDDHAMbFRACTION DIGIT ZERO FOR ODD POWERS OF FOURdONEudTWOudTHREEu",
    "dONE FOR EVENsdTWOudTHREEubSIGN TUUMUaKANNADA SIGN SPACING CANDRABINDUcqcANUSVARAcVISARGA",
    "cSIDDHAMbLETTER AcAAcIcIIcUcUUcVOCALIC RdL"]⟩,
  ⟨0xc8e, ["aKANNADA LETTER EcEEcAI"]⟩,
  ⟨0xc92, [
    "aKANNADA LETTER OcOOcAUcKAcKHAcGAcGHAcNGAcCAcCHAcJAcJHAcNYAcTTAcTTHAcDDAcDDHAcNNAcTAcTHAcDA",
    "cDHAcNA"]⟩,
  ⟨0xcaa, ["aKANNADA LETTER PAcPHAcBAcBHAcMAcYAcRAcRRAcLAcLLA"]⟩,
  ⟨0xcb5, ["aKANNADA LETTER VAcSHAcSSAcSAcHA"]⟩,
  ⟨0xcbc, ["aKANNADA SIGN NUKTAcAVAGRAHAbVOWEL SIGN AAdIdIIdUdUUdVOCALIC ReRR"]⟩,
  ⟨0xcc6, ["aKANNADA VOWEL SIGN EdEEdAI"]⟩, ⟨0xcca, ["aKANNADA VOWEL SIGN OdOOdAUbSIGN VIRAMA"]⟩,
  ⟨0xcd5, ["aKANNADA LENGTH MARKbAIr"]⟩, ⟨0xcdd, ["aKANNADA LETTER NAKAARA POLLUcFA"]⟩,
  ⟨0xce0, ["aKANNADA LETTER VOCALIC RRdLLbVOWEL SIGN VOCALIC LeLL"]⟩,
  ⟨0xce6, ["aKANNADA DIGIT ZEROcONEcTWOcTHREEcFOURcFIVEcSIXcSEVENcEIGHTcNINE"]⟩,
  ⟨0xcf1, ["aKANNADA SIGN JIHVAMULIYAcUPADHMANIYA"]⟩,
  ⟨0xd00, [
    "aMALAYALAM SIGN COMBINING ANUSVARA ABOVEcCANDRABINDUcANUSVARAcVISARGAbLETTER VEDIC ANUSVARA",
    "cAcAAcIcIIcUcUUcVOCALIC RdL"]⟩,
  ⟨0xd0e, ["aMALAYALAM LETTER EcEEcAI"]⟩,
  ⟨0xd12, [
    "aMALAYALAM LETTER OcOOcAUcKAcKHAcGAcGHAcNGAcCAcCHAcJAcJHAcNYAcTTAcTTHAcDDAcDDHAcNNAcTAcTHA",
    "cDAcDHAcNAcNNNAcPAcPHAcBAcBHAcMAcYAcRAcRRAcLAcLLAcLLLAcVAcSHAcSSAcSAcHAcTTTA",
    "bSIGN VERTICAL BAR VIRAMAcCIRCULARqcAVAGRAHAbVOWEL SIGN AAdIdIIdUdUUdVOCALIC ReRR"]⟩,
  ⟨0xd46, ["aMALAYALAM VOWEL SIGN EdEEdAI"]⟩,
  ⟨0xd4a, ["aMALAYALAM VOWEL SIGN OdOOdAUbSIGN VIRAMAbLETTER DOT REPHbSIGN PARA"]⟩,
  ⟨0xd54, [
    "aMALAYALAM LETTER CHILLU MdYdLLLbAU LENGTH MARKbFRACTION ONE ONE-HUNDRED-AND-SIXTIETH",
    "dFORTIETHcTHREE EIGHTIETHScONE TWENTIETHdTENTHcTHREE TWENTIETHScONE FIFTHbLETTER ARCHAIC II",
    "cVOCALIC RRdLLbVOWEL SIGN VOCALIC LeLL"]⟩,
  ⟨0xd66, [
    "aMALAYALAM DIGIT ZEROcONEcTWOcTHREEcFOURcFIVEcSIXcSEVENcEIGHTcNINEbNUMBER TENcONE HUNDRED",
    "dTHOUSANDbFRACTION ONE QUARTERdHALFcTHREE QUARTERScONE SIXTEENTHdEIGHTHcTHREE SIXTEENTHS",
    "bDATE MARKbLETTER CHILLU NNdNdRRdLdLLdK"]⟩,
  ⟨0xd81, ["aSINHALA SIGN CANDRABINDUcANUSVARAYAcVISARGAYA"]⟩,
  ⟨0xd85, [
    "aSINHALA LETTER AYANNAcAAYANNAcAEYANNAcAEEYANNAcIYANNAcIIYANNAcUYANNAcUUYANNAcIRUYANNA",
    "cIRUUYANNAcILUYANNAcILUUYANNAcEYANNAcEEYANNAcAIYANNAcOYANNAcOOYANNAcAUYANNA"]⟩,
  ⟨0xd9a, [
    "aSINHALA LETTER ALPAPRAANA KAYANNAcMAHAAPRAANAqcALPAPRAANA GAYANNAcMAHAAPRAANAq",
    "cKANTAJA NAASIKYAYAcSANYAKA GAYANNAcALPAPRAANA CAYANNAcMAHAAPRAANAqcALPAPRAANA JAYANNA",
    "cMAHAAPRAANAqcTAALUJA NAASIKYAYAdSANYOOGA NAAKSIKYAYAcSANYAKA JAYANNAcALPAPRAANA TTAYANNA",
    "cMAHAAPRAANAqcALPAPRAANA DDAYANNAcMAHAAPRAANAqcMUURDHAJA NAYANNAcSANYAKA DDAYANNA",
    "cALPAPRAANA TAYANNAcMAHAAPRAANAqcALPAPRAANA DAYANNAcMAHAAPRAANAqcDANTAJA NAYANNA"]⟩,
  ⟨0xdb3, [
    "aSINHALA LETTER SANYAKA DAYANNAcALPAPRAANA PAYANNAcMAHAAPRAANAqcALPAPRAANA BAYANNA",
    "cMAHAAPRAANAqcMAYANNAcAMBA BAYANNAcYAYANNAcRAYANNA"]⟩,
  ⟨0xdbd, ["aSINHALA LETTER DANTAJA LAYANNA"]⟩,
  ⟨0xdc0, [
    "aSINHALA LETTER VAYANNAcTAALUJA SAYANNAcMUURDHAJAqcDANTAJAqcHAYANNAcMUURDHAJA LAYANNA",
    "cFAYANNA"]⟩,
  ⟨0xdca, ["aSINHALA SIGN AL-LAKUNA"]⟩,
  ⟨0xdcf, [
    "aSINHALA VOWEL SIGN AELA-PILLAdKETTI AEDA-PILLAdDIGAqdKETTI IS-PILLAdDIGAqdKETTI PAA-PILLA"]⟩,
  ⟨0xdd6, ["aSINHALA VOWEL SIGN DIGA PAA-PILLA"]⟩,
  ⟨0xdd8, [
    "aSINHALA VOWEL SIGN GAETTA-PILLAdKOMBUVAdDIGAqdKOMBU DEKAdKOMBUVA HAA AELA-PILLAfDIGAq",
    "fGAYANUKITTAdq"]⟩,
  ⟨0xde6, ["aSINHALA LITH DIGIT ZEROdONEdTWOdTHREEdFOURdFIVEdSIXdSEVENdEIGHTdNINE"]⟩,
  ⟨0xdf2, ["aSINHALA VOWEL SIGN DIGA GAETTA-PILLAeGAYANUKITTAbPUNCTUATION KUNDDALIYA"]⟩,
  ⟨0xe01, [
    "aTHAI CHARACTER KO KAIcKHO KHAIdKHUATdKHWAIdKHONdRAKHANGcNGO NGUcCHO CHANdCHINGdCHANGcSO SO",
    "cCHO CHOEcYO YINGcDO CHADAcTO PATAKcTHO THANdNANGMONTHOdPHUTHAOcNO NENcDO DEKcTO TAO",
    "cTHO THUNGdTHAHANdTHONGcNO NUcBO BAIMAIcPO PLAcPHO PHUNGcFO FAcPHO PHANcFO FANcPHO SAMPHAO",
    "cMO MAcYO YAKcRO RUAcRUcLO LINGcLUcWO WAENcSO SALAdRUSIdSUAcHO HIPcLO CHULAcO ANGcHO NOKHUK",
    "cPAIYANNOIcSARA AcMAI HAN-AKATcSARA AAdAMdIdIIdUEdUEEdUdUUcPHINTHU"]⟩,
  ⟨0xe3f, [
    "aTHAI CURRENCY SYMBOL BAHTbCHARACTER SARA EdAEdOdAI MAIMUANeMAIMALAIcLAKKHANGYAOcMAIYAMOK",
    "cMAITAIKHUcMAI EKdTHOdTRIdCHATTAWAcTHANTHAKHATcNIKHAHITcYAMAKKANcFONGMANbDIGIT ZEROcONEcTWO",
    "cTHREEcFOURcFIVEcSIXcSEVENcEIGHTcNINEbCHARACTER ANGKHANKHUcKHOMUT"]⟩,
  ⟨0xe81, ["aLAO LETTER KOcKHO SUNG"]⟩, ⟨0xe84, ["aLAO LETTER KHO TAM"]⟩,
  ⟨0xe86, ["aLAO LETTER PALI GHAcNGOcCOcPALI CHAcSO TAM"]⟩,
  ⟨0xe8c, [
    "aLAO LETTER PALI JHAcNYOcPALI NYAdTTAdTTHAdDDAdDDHAdNNAcDOcTOcTHO SUNGdTAMcPALI DHAcNOcBO",
    "cPOcPHO SUNGcFO TAMcPHOqcFO SUNGcPALI BHAcMOcYOcLO LING"]⟩,
  ⟨0xea5, ["aLAO LETTER LO LOOT"]⟩,
  ⟨0xea7, [
    "aLAO LETTER WOcSANSKRIT SHAdSSAcSO SUNGcHOqcPALI LLAcOcHO TAMbELLIPSISbVOWEL SIGN AdMAI KAN",
    "dAAdAMdIdIIdYdYYdUdUUbSIGN PALI VIRAMAbVOWEL SIGN MAI KONbSEMIVOWEL SIGN LOdNYO"]⟩,
  ⟨0xec0, ["aLAO VOWEL SIGN EdEIdOdAYdAI"]⟩, ⟨0xec6, ["aLAO KO LA"]⟩,
  ⟨0xec8, ["aLAO TONE MAI EKdTHOdTIdCATAWAbCANCELLATION MARKbNIGGAHITA"]⟩,
  ⟨0xed0, ["aLAO DIGIT ZEROcONEcTWOcTHREEcFOURcFIVEcSIXcSEVENcEIGHTcNINE"]⟩,
  ⟨0xedc, ["aLAO HO NOcMObLETTER KHMU GOdNYO"]⟩,
  ⟨0xf00, [
    "aTIBETAN SYLLABLE OMbMARK GTER YIG MGO TRUNCATED Af-UM RNAM BCAD MAgGTER TSHEGq",
    "cINITIAL YIG MGO MDUNqcCLOSING YIG MGO SGABqcCARET YIG MGO PHUR SHADqcYIG MGO TSHEGr",
    "cSBRUL SHADcBSKUR YIG MGOcBKA- SHOGrcINTERSYLLABIC TSHEGcDELIMITER TSHEG BSTARcSHADcNYISq",
    "cTSHEGqcNYISrcRIN CHEN SPUNGSqcRGYA GRAMqcCARET -DZUD RTAGS ME LONG CANcGTER TSHEG",
    "bLOGOTYPE SIGN CHAD RTAGSdLHAGqbASTROLOGICAL SIGN SGRA GCAN -CHARqd-KHYUD PAdSDONG TSHUGS",
    "bSIGN RDEL DKAR GCIGeGNYISeGSUMdNAG GCIGeGNYISdDKAR RDEL NAGbDIGIT ZEROcONEcTWOcTHREEcFOUR",
    "cFIVEcSIXcSEVENcEIGHTcNINEcHALF ONEdTWOdTHREEdFOURdFIVEdSIXdSEVENdEIGHTdNINEdZERO",
    "bMARK BSDUS RTAGScNGAS BZUNG NYI ZLAcCARET -DZUD RTAGS BZHI MIG CANcNGAS BZUNG SGOR RTAGS",
    "cCHE MGOcTSA -PHRUcGUG RTAGS GYONeGYAScANG KHANG GYONeGYASbSIGN YAR TSHEScMARqbLETTER KA",
    "cKHAcGAcGHAcNGAcCAcCHAcJA"]⟩,
  ⟨0xf49, [
    "aTIBETAN LETTER NYAcTTAcTTHAcDDAcDDHAcNNAcTAcTHAcDAcDHAcNAcPAcPHAcBAcBHAcMAcTSAcTSHAcDZA",
    "cDZHAcWAcZHAcZAc-AcYAcRAcLAcSHAcSSAcSAcHAcAcKSSAcFIXED-FORM RAcKKAcRRA"]⟩,
  ⟨0xf71, [
    "aTIBETAN VOWEL SIGN AAdIdIIdUdUUdVOCALIC ReRReLeLLdEdEEdOdOObSIGN RJES SU NGA ROcRNAM BCAD",
    "bVOWEL SIGN REVERSED IeIIbSIGN NYI ZLA NAA DAcSNA LDANbMARK HALANTAcPALUTAbSIGN LCI RTAGS",
    "cYANGqcLCE TSA CANcMCHUqcGRU CAN RGYINGSdMEDqcINVERTED MCHU CANbSUBJOINED SIGN LCE TSAq",
    "dMCHUqdINVERTEDrcLETTER KAdKHAdGAdGHAdNGAdCAdCHAdJA"]⟩,
  ⟨0xf99, [
    "aTIBETAN SUBJOINED LETTER NYAdTTAdTTHAdDDAdDDHAdNNAdTAdTHAdDAdDHAdNAdPAdPHAdBAdBHAdMAdTSA",
    "dTSHAdDZAdDZHAdWAdZHAdZAd-AdYAdRAdLAdSHAdSSAdSAdHAdAdKSSAdFIXED-FORM WAeYAeRA"]⟩,
  ⟨0xfbe, [
    "aTIBETAN KU RU KHAeBZHI MIG CANbCANTILLATION SIGN HEAVY BEATdLIGHTqdCANG TE-UdSBUB -CHAL",
    "bSYMBOL DRIL BUcRDO RJEcPADMA GDANcRDO RJE RGYA GRAMcPHUR PAcNOR BUeNYIS -KHYILeGSUMqeBZHIq"]⟩,
  ⟨0xfce, [
    "aTIBETAN SIGN RDEL NAG RDEL DKAReGSUMbMARK BSKA- SHOG GI MGO RGYANcMNYAM YIGscNYIS TSHEG",
    "cINITIAL BRDA RNYING YIG MGO MDUN MAcCLOSING BRDA RNYING YIG MGO SGABq",
    "aRIGHT-FACING SVASTI SIGNaLEFT-FACINGraRIGHT-FACING SVASTI SIGN WITH DOTSaLEFT-FACINGt",
    "aTIBETAN MARK LEADING MCHAN RTAGScTRAILINGr"]⟩]

end Daybook.Text.CharName
