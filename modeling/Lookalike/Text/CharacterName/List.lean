/-!
# Lists of character names

All names of characters but those that follow from a rule, by their first letter.  The
names of a list are in order, and of each one only that part is written that differs from
the name before it: two small letters give the number of letters that both begin with, in
base twenty-six.
-/

namespace Lookalike

namespace CharacterName

/-- The names that begin with A. -/
def listA : List String :=
  ["aaABACUSabC CURRENTacCORDIONaeUNT OFacKadNOWLEDGEacTIVATE ARABIC FORM SHAPING",
    "ajSYMMETRIC SWAPPINGacUTE ACCENTahNGLEabDDRESSED TO THE SUBJECTacHESIVE BANDAGEacI SHAKTI",
    "acLAM ALIF LENGTHENERagCAPITAL LETTER ALIFavBAawHEavCHIavDAALIawHAavEavFAavGAawBEavHAavI",
    "avJIIMavKAFawHAawPOavLAAMavMIIMavNHAawUNawYAavOavPEavQAAFavRAavSHAawINNYIIYHEavTUavUavVA",
    "avWAWavYAawHEavZALahONSONANT MODIFIERagDIGIT EIGHTamFIVEanOURamNINEamONEamSEVENanIXamTHREE",
    "anWOamZEROagGEMINATE CONSONANT MODIFIERanION MARKagHAMZAagINITIAL EXCLAMATION MARK",
    "aoQUESTION MARKagNASALIZATION MARKahUKTAagSMALL LETTER ALIFatBAauHEatCHIatDAALIauHAatEatFA",
    "atGAauBEatHAatIatJIIMatKAFauHAauPOatLAAMatMIIMatNHAauUNauYAatOatPEatQAAFatRAatSHAauINNYIIYHE",
    "atTUatUatVAatWAWatYAauHEatZALagVOWEL LENGTHENERacMETOSadISSION TICKETSacULT",
    "abEGEAN CHECK MARKahDRY MEASURE FIRST SUBUNITahLIQUID MEASURE FIRST SUBUNIT",
    "ahMEASURE SECOND SUBUNITapTHIRD SUBUNITahNUMBER EIGHTat HUNDREDauTHOUSANDatYau THOUSAND",
    "aoFIFTYat THOUSANDaqVEas HUNDREDatTHOUSANDapORTYat THOUSANDaqURas HUNDREDatTHOUSANDaoNINE",
    "as HUNDREDatTHOUSANDasTYau THOUSANDaoONEar HUNDREDasTHOUSANDaoSEVENat HUNDREDauTHOUSANDatTY",
    "av THOUSANDapIXar HUNDREDasTHOUSANDarTYat THOUSANDaoTENar THOUSANDapHIRTYau THOUSANDaqREE",
    "at HUNDREDauTHOUSANDapWENTYau THOUSANDaqOar HUNDREDasTHOUSANDahWEIGHT BASE UNIT",
    "aoFIRST SUBUNITapOURTH SUBUNITaoSECOND SUBUNITaoTHIRD SUBUNITaiORD SEPARATOR DOTawLINE",
    "acRIAL TRAMWAYabFGHANI SIGNabHOM CONSONANT SIGN MEDIAL LAbcIGATING RAbbRAafDIGIT EIGHTalFIVE",
    "amOURalNINEalONEalSEVENamIXalTHREEamWOalZEROafLETTER AanLTERNATE BAawGAawTAamBAanHAamCAanHA",
    "amDAanDAaoHAanHAamGAanHAamHAamJAanHAamKAanHAamLAanLAamMAamNAanGAanNAanYAamPAanHAamRAamSAamTA",
    "anHAanTAaoHAafNUMBER TENanWENTYafSIGN KILLERakRULAIakSECTIONalMALL SECTIONagYMBOL VI",
    "afVOWEL SIGN AarAarIarMarWaqEaqIarIaqOaqUarUabIRPLANEai ARRIVINGajDEPARTUREabKTIESELSKAB",
    "abLARM CLOCKacCHEMICAL SYMBOL FOR AIRaxLEMBICayKALIbc-2ayUMaxMALGAMaxNTIMONY OREaxQUA REGIA",
    "bg-2bbVITAEbg-2baFORTISaxRSENICaxSHESaxURIPIGMENTawBATH OF MARYbeVAPOURSaxISMUTH ORE",
    "axLACK SULFURaxORAXbb-2bc3axRICKawCADUCEUSayLXayPUT MORTUUMaxINNABARaxOPPER ANTIMONIATEbdORE",
    "axROCUS OF COPPERbm-2bgIRONayUCIBLEbe-2bf3bf4bf5awDAY-NIGHTaxISSOLVEbe-2azTILLawEARTHawFIRE",
    "awGOLDaxUMawHALF DRAMbbOUNCEaxORSE DUNGayURawIRON OREbe-2ba-COPPER OREawLEAD OREaxODESTONE",
    "awMARCASITEaxERCURY SUBLIMATEbn-2bo3axONTHawNIGHTayTREawOILawPHILOSOPHERS SULFURaxOT ASHES",
    "ayWDERbcED BRICKaxRECIPITATEaxURIFYayTREFACTIONawQUICK LIMEazNTESSENCEawREALGARbd-2ayGULUS",
    "bd OF ANTIMONYbp-2bhIRONbd-2be3be4ayTORTaxOCK SALTbf-2awSAL-AMMONIACazTba OF ANTIMONY",
    "beCOPPER ANTIMONIATEaxCEPTER OF JOVEaxILVERaxOAPaxPIRITaxTARRED TRIDENTayRATUM SUPER STRATUM",
    "br-2axUBLIMATE OF ANTIMONYbjCOPPERbjSALT OF ANTIMONYbrCOPPERbeIONayLFURawTARTARbc-2axIN ORE",
    "azCTUREaxRIDENTaxUTTYawURINEawVERDIGRISaxINEGARbd OF ANTIMONYbd-2be3ayTRIOLbd-2awWATERayX",
    "acEF SYMBOLadMBICadRTacIEN MONSTERacL AROUND-PROFILEaeEQUAL TOacMadOST EQUAL OR EQUAL TOanTO",
    "ap WITH CIRCUMFLEX ACCENTacTERNATE ONE-WAY LEFT WAY TRAFFICaiIVE KEY SYMBOL",
    "abMALGAMATION OR COPRODUCTacBULANCEacERICAN FOOTBALLacPERSANDadHORA",
    "abNATOLIAN HIEROGLYPH A001ay2ay3ay4ay5ay6ay7ay8ay9ax10azAay1ay2ay3ay4ay5ay6ay7ay8ay9ax20ay1",
    "ay2ay3ay4ay5ay6azAay7ay8ay9ax30ay1ay2ay3ay4ay5ay6ay7ay8ay9azAax40ay1azAay2ay3ay4ay5azAay6azA",
    "azBay7ay8ay9ax50ay1ay2ay3ay4ay5ay6ay7ay8ay9ax60ay1ay2ay3ay4ay5ay6azAazBazCay7ay8ay9ax70ay1",
    "ay2ay3ay4ay5ay6ay7ay8ay9ax80ay1ay2ay3ay4ay5ay6ay7ay8ay9ax90ay1ay2ay3ay4ay5ay6ay7azAay8azAay9",
    "aw100azAay1azAay2azAay3ay4azAazBazCay5azAazBay6ay7azAazBazCay8ay9ax10azAazBay1ay2ay3ay4ay5",
    "azAay6ay7ay8ay9ax20ay1ay2ay3ay4ay5azAay6ay7ay8ay9ax30ay1ay2ay3ay4ay5azAay6ay7ay8ay9ax40ay1",
    "ay2ay3ay4ay5ay6ay7ay8ay9ax50ay1ay2ay3ay4ay5ay6ay7ay8ay9ax60ay1ay2ay3ay4ay5ay6ay7ay8ay9ax70",
    "ay1ay2ay3ay4ay5ay6ay7ay8ay9ax80ay1ay2ay3ay4ay5ay6ay7ay8ay9ax90ay1ay2ay3ay4ay5ay6ay7ay8ay9",
    "aw200ay1ay2azAazBay3ay4ay5ay6ay7azAay8ay9azAax10ay1ay2ay3ay4ay5azAay6azAay7ay8ay9ax20ay1ay2",
    "ay3ay4ay5ay6ay7azAay8ay9ax30ay1ay2ay3ay4ay5ay6ay7ay8ay9ax40ay1ay2ay3ay4ay5ay6ay7ay8ay9ax50",
    "ay1ay2ay3ay4ay5ay6ay7ay8ay9ax60ay1ay2ay3ay4ay5ay6ay7azAay8ay9ax70ay1ay2ay3ay4ay5ay6ay7ay8ay9",
    "ax80ay1ay2ay3ay4ay5ay6ay7ay8ay9azAax90ay1ay2ay3ay4azAay5ay6ay7ay8ay9azAaw300ay1ay2ay3ay4ay5",
    "ay6ay7ay8ay9azAax10ay1ay2ay3ay4ay5ay6ay7ay8ay9ax20ay1ay2ay3ay4ay5ay6ay7ay8ay9azAax30ay1ay2A",
    "azBazCay3ay4ay5ay6azAazBazCay7ay8ay9ax40ay1ay2ay3ay4ay5ay6ay7ay8ay9ax50ay1ay2ay3ay4ay5ay6ay7",
    "ay8ay9azAax60ay1ay2ay3ay4azAay5ay6ay7ay8azAay9ax70ay1azAay2ay3ay4ay5ay6ay7ay8ay9ax80ay1azA",
    "ay2ay3 RA OR RIazAay4ay5ay6azAay7ay8ay9ax90ay1ay2ay3 EIGHTay4ay5ay6ay7ay8ay9aw400ay1ay2ay3",
    "ay4ay5ay6ay7ay8ay9ax10 BEGIN LOGOGRAM MARKazA END LOGOGRAM MARKay1ay2ay3ay4ay5ay6ay7ay8ay9",
    "ax20ay1ay2ay3ay4ay5ay6ay7ay8ay9ax30ay1ay2ay3ay4ay5ay6ay7ay8ay9ax40ay1ay2ay3ay4ay5ay6ay7ay8",
    "ay9ax50azAay1ay2ay3ay4ay5ay6ay7azAay8ay9ax60ay1ay2ay3ay4ay5ay6ay7ay8ay9ax70ay1ay2ay3ay4ay5",
    "ay6ay7ay8ay9ax80ay1ay2ay3ay4ay5ay6ay7ay8ay9ax90ay1ay2ay3ay4ay5ay6ay7aw501ay2ay3ay4ay5ay6ay7",
    "ay8ay9ax10ay1ay2ay3ay4ay5ay6ay7ay8ay9ax20ay1ay2ay3ay4ay5ay6ay7ay8ay9ax30afMICAL HEARTacCHOR",
    "acD WITH DOTacGER SYMBOLadLEaf WITH S INSIDEalUNDERBARadRY FACEadSTROM SIGNadUISHED FACEacKH",
    "acTadENNA WITH BARSadICLOCKWISE CLOSED CIRCLE ARROWapONTOUR INTEGRAL",
    "aoDOWNWARDS AND UPWARDS OPEN CIRCLE ARROWSaoGAPPED CIRCLE ARROWaoINTEGRATION",
    "aoOPEN CIRCLE ARROWaoTOP SEMICIRCLE ARROWapRIANGLE-HEADED BOTTOM U-SHAPED ARROW",
    "beLEFT U-SHAPED ARROWbeOPEN CIRCLE ARROWbeRIGHT U-SHAPED ARROWbeTOP U-SHAPED ARROWabPC",
    "acL FUNCTIONAL SYMBOL ALPHAbb UNDERBARawBACKSLASH BARawCIRCLE BACKSLASHbdDIAERESISbdJOT",
    "bdSTARbfILEbdUNDERBARaxOMMA BARawDEL DIAERESISbaSTILEbaTILDEazTA STILEbcUNDERBAR",
    "axIAMOND UNDERBARaxOWN CARET TILDEbbSHOE STILEbbTACK JOTbgUNDERBARbaWARDS VANE",
    "awEPSILON UNDERBARawGREATER-THAN DIAERESISawI-BEAMaxOTAba UNDERBARawJOT DIAERESISbaUNDERBAR",
    "awLEFT SHOE STILEbaWARDS VANEawOMEGAbb UNDERBARawQUADba BACKSLASHbbCIRCLEbcOLONbbDELbeTA",
    "bcIAMONDbdVIDEbcOWN CARETbfWARDS ARROWbbEQUALbbGREATER-THANbbJOTbbLEFTWARDS ARROWbdSS-THAN",
    "bbNOT EQUALbbQUESTIONbbRIGHTWARDS ARROWbbSLASHbbUP CARETbdWARDS ARROWayOTE QUADbcUNDERBAR",
    "awRHOaxIGHTWARDS VANEawSEMICOLON UNDERBARaxLASH BARaxQUISH QUADaxTAR DIAERESISayILE TILDE",
    "awTILDE DIAERESISawUP CARET TILDEazSHOE JOTazTACK DIAERESISbeJOTbeOVERBARayWARDS VANEawZILDE",
    "acOLLONadSTROPHEacPLICATION PROGRAM COMMANDadROACHES THE LIMIT",
    "afXIMATELY BUT NOT ACTUALLY EQUAL TOaoEQUAL OR EQUAL TOauTOaw OR THE IMAGE OFabQUARIUS",
    "abRABIC BASELINE ROUND DOTahCOMMAaiURLY DAMMAasTANanFATHAasTANanKASRAasTANahDAMMA",
    "am ISOLATED FORManMEDIAL FORManWITH DOTamTANap ISOLATED FORMajTE SEPARATORaiECIMAL SEPARATOR",
    "aiISPUTED END OF AYAHaiOUBLE RIGHT ARROWHEAD ABOVEbj WITH DOTanD MADDA",
    "ahEMPTY CENTRE HIGH STOPauLOW STOPaiND OF AYAHaoTEXT MARKahFATHAam ISOLATED FORM",
    "anMEDIAL FORManWITH DOT ABOVEasRINGasTWO DOTSamTANap ISOLATED FORMaiIVE POINTED STAR",
    "aiOOTNOTE MARKERaiULL STOPahHALF MADDA OVER MADDAajMZA ABOVEanBELOWahINVERTED DAMMAahKASRA",
    "am ISOLATED FORManMEDIAL FORManWITH DOT BELOWamTANap ISOLATED FORMahLARGE CIRCLE BELOW",
    "anROUND DOT ABOVEaxBELOWaxINSIDE CIRCLE BELOWaiEFT ARROWHEAD ABOVEawBELOWajTTER AE",
    "apFRICAN FEHawNOONawQAFaz WITH THREE DOTS ABOVEapINar FINAL FORMasINITIAL FORMatSOLATED FORM",
    "asMEDIAL FORMasWITH THREE DOTS ABOVEbiBELOWbiPOINTING DOWNWARDS ABOVEayWO DOTS ABOVE",
    "bgVERTICALLY ABOVEapLEFas FINAL FORMatISOLATED FORMatMAKSURAba FINAL FORMbbISOLATED FORM",
    "atWASLAay FINAL FORMazISOLATED FORMauITH ATTACHED BOTTOM RIGHT KASRAbz AND DOT ABOVE",
    "ceLEFT RINGbhFATHAbhKASRAbhLEFT HAMZAbmROUND DOTbhRIGHT HAMZAbnROUND DOTbiOUND DOT ABOVE",
    "brBELOWbhTOP RIGHT FATHAbw AND DOT ABOVEcbLEFT RINGayDOT ABOVE",
    "ayEXTENDED ARABIC-INDIC DIGIT THREE ABOVEcbWO ABOVEayHAMZA ABOVEbj FINAL FORMbkISOLATED FORM",
    "beBELOWbj FINAL FORMbkISOLATED FORMayLEFT MIDDLE STROKEayMADDA ABOVEbj FINAL FORM",
    "bkISOLATED FORMayRIGHT MIDDLE STROKEbr AND DOT ABOVEbwLEFT RINGayWAVY HAMZA ABOVEbjBELOW",
    "aoBEEHas FINAL FORMatINITIAL FORMauSOLATED FORMatMEDIAL FORMaqHar FINAL FORMasINITIAL FORM",
    "atSOLATED FORMasMEDIAL FORMasWITH DOT BELOW AND THREE DOTS ABOVEaxHAMZA ABOVE",
    "axINVERTED SMALL V BELOWaxSMALL MEEM ABOVEbdVbe BELOWaxTHREE DOTS HORIZONTALLY BELOW",
    "biPOINTING UPWARDS BELOWce AND TWO DOTS ABOVEayWO DOTS BELOW AND DOT ABOVEarEHat FINAL FORM",
    "auINITIAL FORMavSOLATED FORMauMEDIAL FORMaoDADar FINAL FORMasINITIAL FORMatSOLATED FORM",
    "asMEDIAL FORMasWITH DOT BELOWaqHALat FINAL FORMauISOLATED FORMaqLar FINAL FORM",
    "asISOLATED FORMasWITH DOT BELOWbg AND SMALL TAHaxFOUR DOTS ABOVEaxINVERTED SMALL V BELOWbgV",
    "axRINGaxTHREE DOTS ABOVE DOWNWARDSbiBELOWayWO DOTS VERTICALLY BELOW AND SMALL TAHapDAHAL",
    "au FINAL FORMavISOLATED FORMarLas FINAL FORMatISOLATED FORMapOTLESS BEHawFEHawQAFapUL",
    "ar FINAL FORMasISOLATED FORMapYEHas FINAL FORMatINITIAL FORMauSOLATED FORMatMEDIAL FORMaoE",
    "ap FINAL FORMaqINITIAL FORMarSOLATED FORMaqMEDIAL FORMaoFARSI YEHax FINAL FORMayINITIAL FORM",
    "azSOLATED FORMayMEDIAL FORMayWITH EXTENDED ARABIC-INDIC DIGIT FOUR BELOWcfTHREE ABOVE",
    "cgWO ABOVEbdINVERTED VbdTHREE DOTS ABOVEbeWO DOTS ABOVEapEHar FINAL FORMasINITIAL FORM",
    "atSOLATED FORMasMEDIAL FORMasWITH DOT BELOWbg AND THREE DOTS ABOVEbbMOVED BELOW",
    "axTHREE DOTS BELOWbiPOINTING UPWARDS BELOWayWO DOTS BELOWaoGAFar FINAL FORMasINITIAL FORM",
    "atSOLATED FORMasMEDIAL FORMasWITH INVERTED STROKEaxRINGaxTHREE DOTS ABOVEayWO DOTS BELOW",
    "apHAINat FINAL FORMauINITIAL FORMavSOLATED FORMauMEDIAL FORMauWITH DOT BELOW",
    "azTHREE DOTS ABOVEapRAFapUEHas FINAL FORMatINITIAL FORMauSOLATED FORMatMEDIAL FORMaoHAH",
    "ar FINAL FORMasINITIAL FORMatSOLATED FORMasMEDIAL FORM",
    "asWITH EXTENDED ARABIC-INDIC DIGIT FOUR BELOWaxHAMZA ABOVEaxINVERTED SMALL V BELOW",
    "axSMALL ARABIC LETTER TAH ABOVEbwND TWO DOTSbvBELOWaxTHREE DOTS ABOVE",
    "biPOINTING UPWARDS BELOWayWO DOTS ABOVEbgVERTICAL ABOVEaqMZAat ISOLATED FORMapEH",
    "ar DOACHASHMEEbd FINAL FORMbeINITIAL FORMbfSOLATED FORMbeMEDIAL FORMasFINAL FORMasGOAL",
    "aw FINAL FORMaxINITIAL FORMaySOLATED FORMaxMEDIAL FORMaxWITH HAMZA ABOVEasINITIAL FORM",
    "atSOLATED FORMasMEDIAL FORMasWITH INVERTED VaxYEH ABOVEbg FINAL FORMbhISOLATED FORM",
    "apIGH HAMZAay ALEFazWAWazYEHaoJEEMas FINAL FORMatINITIAL FORMauSOLATED FORMatMEDIAL FORM",
    "atWITH THREE DOTS ABOVEbjBELOWazWO DOTS ABOVEaqHar FINAL FORMasISOLATED FORMaoKAF",
    "ar FINAL FORMasINITIAL FORMatSOLATED FORMasMEDIAL FORMasWITH DOT ABOVEbbBELOWaxRING",
    "axTHREE DOTS BELOWayWO DOTS ABOVEaqSHMIRI YEHapEHEHat FINAL FORMauINITIAL FORMavSOLATED FORM",
    "auMEDIAL FORMauWITH DOT ABOVEazSMALL VazTHREE DOTS ABOVEbkBELOWbkPOINTING UPWARDS BELOW",
    "baWO DOTS ABOVEbiVERTICALLY BELOWapHAHas FINAL FORMatINITIAL FORMauSOLATED FORMatMEDIAL FORM",
    "apIRGHIZ OEay FINAL FORMazISOLATED FORMawYUay FINAL FORMazISOLATED FORMaoLAMar FINAL FORM",
    "asINITIAL FORMatSOLATED FORMasMEDIAL FORMasWITH BARaxDOT ABOVEazUBLE BAR",
    "axSMALL ARABIC LETTER TAH ABOVEbdVaxTHREE DOTS ABOVEbiBELOWapOW ALEFaoMARKapEEMas FINAL FORM",
    "atINITIAL FORMauSOLATED FORMatMEDIAL FORMatWITH DOT ABOVEbcBELOWayTHREE DOTS ABOVEaoNG",
    "aq FINAL FORMarINITIAL FORMasSOLATED FORMarMEDIAL FORMaqOEHat FINAL FORMauINITIAL FORM",
    "avSOLATED FORMauMEDIAL FORMapOONas FINAL FORMatGHUNNAaz FINAL FORMbaISOLATED FORM",
    "atINITIAL FORMauSOLATED FORMatMEDIAL FORMatWITH DOT BELOWayINVERTED SMALL VayRINGaySMALL TAH",
    "beVayTHREE DOTS ABOVEazWO DOTS BELOWapYEHas FINAL FORMatINITIAL FORMauSOLATED FORM",
    "atMEDIAL FORMaoOEaq FINAL FORMarISOLATED FORMaoPEHar FINAL FORMasINITIAL FORMatSOLATED FORM",
    "asMEDIAL FORMasWITH SMALL MEEM ABOVEbdVarEHat FINAL FORMauINITIAL FORMavSOLATED FORM",
    "auMEDIAL FORMaoQAFar FINAL FORMasINITIAL FORMatSOLATED FORMasMEDIAL FORMasWITH DOT ABOVE",
    "bbBELOWbg AND NO DOTS ABOVEaxTHREE DOTS ABOVEaoREHar FINAL FORMasISOLATED FORM",
    "asWITH DOT BELOWbg AND DOT ABOVEaxFOUR DOTS ABOVEaxHAMZA ABOVEaxINVERTED VaxLOOPaxRING",
    "axSMALL ARABIC LETTER TAH AND TWO DOTSbdNOON ABOVEbdVbe BELOWayTROKEaxTWO DOTS ABOVE",
    "bgVERTICALLY ABOVEapNOONat FINAL FORMauINITIAL FORMavSOLATED FORMauMEDIAL FORMapOHINGYA YEH",
    "apREHas FINAL FORMatISOLATED FORMaoSADar FINAL FORMasINITIAL FORMatSOLATED FORMasMEDIAL FORM",
    "asWITH THREE DOTS ABOVEbiBELOWayWO DOTS BELOWapEENas FINAL FORMatINITIAL FORMauSOLATED FORM",
    "atMEDIAL FORMatWITH DOT BELOW AND DOT ABOVEayEXTENDED ARABIC-INDIC DIGIT FOUR ABOVE",
    "ayFOUR DOTS ABOVEayINVERTED VaySMALL ARABIC LETTER TAH AND TWO DOTSayTHREE DOTS BELOW",
    "bo AND THREE DOTS ABOVEazWO DOTS VERTICALLY ABOVEapHEENat FINAL FORMauINITIAL FORM",
    "avSOLATED FORMauMEDIAL FORMauWITH DOT BELOWapTRAIGHT WAWapUPERSCRIPT ALEFapWASH KAFaoTAH",
    "ar FINAL FORMasINITIAL FORMatSOLATED FORMasMEDIAL FORMasWITH DOT BELOWaxTHREE DOTS ABOVE",
    "biBELOWayWO DOTS ABOVEapCHEHat FINAL FORMauINITIAL FORMavSOLATED FORMauMEDIAL FORM",
    "auWITH DOT ABOVEazSMALL VatEHav FINAL FORMawINITIAL FORMaxSOLATED FORMawMEDIAL FORMapEH",
    "ar FINAL FORMasINITIAL FORMatSOLATED FORMasMARBUTAaz FINAL FORMbaGOALbaISOLATED FORM",
    "atEDIAL FORMasWITH RINGaxSMALL TEH ABOVEbdVaxTHREE DOTS ABOVE DOWNWARDSarEHat FINAL FORM",
    "auINITIAL FORMavSOLATED FORMauMEDIAL FORMapHALas FINAL FORMatISOLATED FORMaqEHas FINAL FORM",
    "atINITIAL FORMauSOLATED FORMatMEDIAL FORMaqIN YEHapTEHas FINAL FORMatINITIAL FORM",
    "auSOLATED FORMatMEDIAL FORMatWITH SMALL VasEHau FINAL FORMavINITIAL FORMawSOLATED FORM",
    "avMEDIAL FORMaoUap FINAL FORMaqISOLATED FORMaqWITH HAMZA ABOVEbg ISOLATED FORM",
    "apIGHUR KAZAKH KIRGHIZ ALEF MAKSURA INITIAL FORMbxMEDIAL FORMaoVEaq FINAL FORM",
    "arISOLATED FORMaqHar FINAL FORMasINITIAL FORMatSOLATED FORMasMEDIAL FORMaoWAWar FINAL FORM",
    "asISOLATED FORMasWITH DOT ABOVEbbWITHINaxEXTENDED ARABIC-INDIC DIGIT THREE ABOVEcaWO ABOVE",
    "axHAMZA ABOVEbi FINAL FORMbjISOLATED FORMaxRINGaxTWO DOTS ABOVEaoYEHar BARREEay FINAL FORM",
    "azISOLATED FORMazWITH EXTENDED ARABIC-INDIC DIGIT THREE ABOVEchWO ABOVEbeHAMZA ABOVE",
    "bp FINAL FORMbqISOLATED FORMasFINAL FORMasINITIAL FORMatSOLATED FORMasMEDIAL FORM",
    "asWITH HAMZA ABOVEbi FINAL FORMbjINITIAL FORMbkSOLATED FORMbjMEDIAL FORMaxSMALL VaxTAIL",
    "ayHREE DOTS BELOWayWO DOTS BELOW AND DOT ABOVEbqHAMZA ABOVEbqSMALL NOON ABOVEapU",
    "aq FINAL FORMarISOLATED FORMaoZAHar FINAL FORMasINITIAL FORMatSOLATED FORMasMEDIAL FORMaqIN",
    "as FINAL FORMatISOLATED FORMatWITH INVERTED V ABOVE",
    "aiIGATURE AIN WITH ALEF MAKSURA FINAL FORMbmISOLATED FORMazJEEM INITIAL FORMbfSOLATED FORM",
    "beWITH MEEM FINAL FORMboINITIAL FORMazMEEM INITIAL FORMbfSOLATED FORM",
    "beWITH ALEF MAKSURA FINAL FORMbjMEEM FINAL FORMboINITIAL FORMbjYEH FINAL FORM",
    "azYEH FINAL FORMbdISOLATED FORMarKBAR ISOLATED FORMarLAYHAA AS-SALAAMavE ISOLATED FORM",
    "avI AS-SALAAMbfTU WAS-SALAAMawM AS-SALAAMaxAA AS-SALAAM",
    "asEF MAKSURA WITH SUPERSCRIPT ALEF FINAL FORMbzISOLATED FORMavWITH FATHATAN FINAL FORM",
    "bjISOLATED FORMasLAH ISOLATED FORMarZZA WA JALLaqBEH WITH ALEF MAKSURA FINAL FORM",
    "bmISOLATED FORMazHAH INITIAL FORMbeSOLATED FORMbdWITH YEH FINAL FORMbaEH INITIAL FORM",
    "bdMEDIAL FORMazJEEM INITIAL FORMbfSOLATED FORMazKHAH INITIAL FORMbfSOLATED FORM",
    "beWITH YEH FINAL FORMazMEEM FINAL FORMbeINITIAL FORMbfSOLATED FORMbeMEDIAL FORM",
    "azNOON FINAL FORMazREH FINAL FORMazYEH FINAL FORMbdISOLATED FORMazZAIN FINAL FORM",
    "arISMILLAH AR-RAHMAN AR-RAHEEMaqDAD WITH ALEF MAKSURA FINAL FORMbmISOLATED FORM",
    "azHAH INITIAL FORMbeSOLATED FORMbdWITH ALEF MAKSURA FINAL FORMbiYEH FINAL FORM",
    "azJEEM INITIAL FORMbfSOLATED FORMazKHAH INITIAL FORMbfSOLATED FORMbeWITH MEEM FINAL FORM",
    "boINITIAL FORMazMEEM INITIAL FORMbfSOLATED FORMazREH FINAL FORMbdISOLATED FORM",
    "azYEH FINAL FORMbdISOLATED FORMaqFEH WITH ALEF MAKSURA FINAL FORMbmISOLATED FORM",
    "azHAH INITIAL FORMbeSOLATED FORMazJEEM INITIAL FORMbfSOLATED FORMazKHAH INITIAL FORM",
    "bfSOLATED FORMbeWITH MEEM FINAL FORMboINITIAL FORMazMEEM INITIAL FORMbfSOLATED FORM",
    "beWITH YEH FINAL FORMazYEH FINAL FORMbdISOLATED FORMaqGHAIN WITH ALEF MAKSURA FINAL FORM",
    "boISOLATED FORMbbJEEM INITIAL FORMbhSOLATED FORMbbMEEM INITIAL FORMbhSOLATED FORM",
    "bgWITH ALEF MAKSURA FINAL FORMblMEEM FINAL FORMblYEH FINAL FORMbbYEH FINAL FORM",
    "bfISOLATED FORMaqHAH WITH ALEF MAKSURA FINAL FORMbmISOLATED FORMazJEEM INITIAL FORM",
    "bfSOLATED FORMbeWITH YEH FINAL FORMazMEEM INITIAL FORMbfSOLATED FORM",
    "beWITH ALEF MAKSURA FINAL FORMbjYEH FINAL FORMazYEH FINAL FORMbdISOLATED FORM",
    "arEH WITH ALEF MAKSURA ISOLATED FORMazJEEM INITIAL FORMbfSOLATED FORMazMEEM INITIAL FORM",
    "bfSOLATED FORMbeWITH JEEM INITIAL FORMbjMEEM INITIAL FORMazSUPERSCRIPT ALEF INITIAL FORM",
    "azYEH ISOLATED FORMaqJALLAJALALOUHOUarEEM WITH ALEF MAKSURA FINAL FORMbnISOLATED FORM",
    "baHAH INITIAL FORMbfSOLATED FORMbeWITH ALEF MAKSURA FINAL FORMbjYEH FINAL FORM",
    "baMEEM INITIAL FORMbgSOLATED FORMbfWITH ALEF MAKSURA FINAL FORMbkHAH FINAL FORM",
    "boINITIAL FORMbkYEH FINAL FORMbaYEH FINAL FORMbeISOLATED FORMaqKAF WITH ALEF FINAL FORM",
    "beISOLATED FORMbeMAKSURA FINAL FORMbmISOLATED FORMazHAH INITIAL FORMbeSOLATED FORM",
    "azJEEM INITIAL FORMbfSOLATED FORMazKHAH INITIAL FORMbfSOLATED FORMazLAM FINAL FORM",
    "bdINITIAL FORMbeSOLATED FORMbdMEDIAL FORMazMEEM FINAL FORMbeINITIAL FORMbfSOLATED FORM",
    "beMEDIAL FORMbeWITH MEEM FINAL FORMboINITIAL FORMbjYEH FINAL FORMazYEH FINAL FORM",
    "bdISOLATED FORMarHAH WITH ALEF MAKSURA FINAL FORMbnISOLATED FORMbaHAH ISOLATED FORM",
    "baJEEM INITIAL FORMbgSOLATED FORMbaMEEM INITIAL FORMbgSOLATED FORMbaYEH FINAL FORM",
    "beISOLATED FORMaqLAM WITH ALEF FINAL FORMbeISOLATED FORMbeMAKSURA FINAL FORMbmISOLATED FORM",
    "beWITH HAMZA ABOVE FINAL FORMbvISOLATED FORMbpBELOW FINAL FORMbvISOLATED FORM",
    "bjMADDA ABOVE FINAL FORMbvISOLATED FORMazHAH INITIAL FORMbeSOLATED FORM",
    "bdWITH ALEF MAKSURA FINAL FORMbiMEEM FINAL FORMbnINITIAL FORMbiYEH FINAL FORM",
    "baEH INITIAL FORMazJEEM INITIAL FORMbfSOLATED FORMbeWITH JEEM FINAL FORMboINITIAL FORM",
    "bjMEEM FINAL FORMboINITIAL FORMbjYEH FINAL FORMazKHAH INITIAL FORMbfSOLATED FORM",
    "beWITH MEEM FINAL FORMboINITIAL FORMazMEEM FINAL FORMbeINITIAL FORMbfSOLATED FORM",
    "beMEDIAL FORMbeWITH HAH FINAL FORMbnINITIAL FORMbjYEH FINAL FORMazYEH FINAL FORM",
    "bdISOLATED FORMaqMEEM WITH ALEF FINAL FORMbfMAKSURA ISOLATED FORMbaHAH INITIAL FORM",
    "bfSOLATED FORMbeWITH JEEM INITIAL FORMbjMEEM INITIAL FORMbjYEH FINAL FORMbaJEEM INITIAL FORM",
    "bgSOLATED FORMbfWITH HAH INITIAL FORMbkKHAH INITIAL FORMbkMEEM INITIAL FORMbkYEH FINAL FORM",
    "baKHAH INITIAL FORMbgSOLATED FORMbfWITH JEEM INITIAL FORMbkMEEM INITIAL FORMbkYEH FINAL FORM",
    "baMEEM FINAL FORMbfINITIAL FORMbgSOLATED FORMbfWITH YEH FINAL FORMbaYEH ISOLATED FORM",
    "arOHAMMAD ISOLATED FORMaqNOON WITH ALEF MAKSURA FINAL FORMbnISOLATED FORMbaHAH INITIAL FORM",
    "bfSOLATED FORMbeWITH ALEF MAKSURA FINAL FORMbjMEEM INITIAL FORMbjYEH FINAL FORM",
    "bbEH INITIAL FORMbeMEDIAL FORMbaJEEM INITIAL FORMbgSOLATED FORM",
    "bfWITH ALEF MAKSURA FINAL FORMbkHAH FINAL FORMboINITIAL FORMbkMEEM FINAL FORMbpINITIAL FORM",
    "bkYEH FINAL FORMbaKHAH INITIAL FORMbgSOLATED FORMbaMEEM FINAL FORMbfINITIAL FORM",
    "bgSOLATED FORMbfMEDIAL FORMbfWITH ALEF MAKSURA FINAL FORMbkYEH FINAL FORMbaNOON FINAL FORM",
    "baREH FINAL FORMbaYEH FINAL FORMbeISOLATED FORMbaZAIN FINAL FORM",
    "aqQAF WITH ALEF MAKSURA FINAL FORMbmISOLATED FORMazHAH INITIAL FORMbeSOLATED FORM",
    "azMEEM INITIAL FORMbfSOLATED FORMbeWITH HAH FINAL FORMbnINITIAL FORMbjMEEM FINAL FORM",
    "bjYEH FINAL FORMazYEH FINAL FORMbdISOLATED FORMasLA USED AS KORANIC STOP SIGN ISOLATED FORM",
    "arUDDISA SIRRAHaqRADI ALLAAHU ANHbgAAbgUMbiAAbhNNAasHIMAHU ALLAAHayM ALLAAH",
    "asSOUL ISOLATED FORMarEH WITH SUPERSCRIPT ALEF ISOLATED FORM",
    "aqSAD WITH ALEF MAKSURA FINAL FORMbmISOLATED FORMazHAH INITIAL FORMbeSOLATED FORM",
    "bdWITH HAH FINAL FORMbmINITIAL FORMbiYEH FINAL FORMazKHAH INITIAL FORMazMEEM INITIAL FORM",
    "bfSOLATED FORMbeWITH MEEM FINAL FORMboINITIAL FORMazREH FINAL FORMbdISOLATED FORM",
    "azYEH FINAL FORMbdISOLATED FORMasLAAMUHU ALAYNAAauM ISOLATED FORMatLA ISOLATED FORM",
    "awUSED AS KORANIC STOP SIGN ISOLATED FORMavLLAAHU ALAYHI WA-AALIHayHOU ALAYHE WASALLAM",
    "azU ALAYHI WAAALIHEE WA-SALLAMarEEN WITH ALEF MAKSURA FINAL FORMbnISOLATED FORM",
    "baHAH INITIAL FORMbfSOLATED FORMbeMEDIAL FORMbeWITH JEEM INITIAL FORMbbEH INITIAL FORM",
    "beMEDIAL FORMbaJEEM INITIAL FORMbgSOLATED FORMbfMEDIAL FORMbfWITH ALEF MAKSURA FINAL FORM",
    "bkHAH INITIAL FORMbaKHAH INITIAL FORMbgSOLATED FORMbfMEDIAL FORM",
    "bfWITH ALEF MAKSURA FINAL FORMbkYEH FINAL FORMbaMEEM INITIAL FORMbgSOLATED FORMbfMEDIAL FORM",
    "bfWITH HAH FINAL FORMboINITIAL FORMbkJEEM INITIAL FORMbkMEEM FINAL FORMbpINITIAL FORM",
    "baREH FINAL FORMbeISOLATED FORMbaYEH FINAL FORMbeISOLATED FORM",
    "arHADDA WITH DAMMA ISOLATED FORMbiMEDIAL FORMbhTAN ISOLATED FORMbcFATHA ISOLATED FORM",
    "biMEDIAL FORMbcKASRA ISOLATED FORMbiMEDIAL FORMbhTAN ISOLATED FORM",
    "bcSUPERSCRIPT ALEF ISOLATED FORMasEEN WITH ALEF MAKSURA FINAL FORMboISOLATED FORM",
    "bbHAH FINAL FORMbfINITIAL FORMbgSOLATED FORMbfMEDIAL FORMbfWITH MEEM FINAL FORM",
    "bpINITIAL FORMbkYEH FINAL FORMbcEH INITIAL FORMbfMEDIAL FORMbbJEEM FINAL FORMbgINITIAL FORM",
    "bhSOLATED FORMbgMEDIAL FORMbgWITH YEH FINAL FORMbbKHAH FINAL FORMbgINITIAL FORM",
    "bhSOLATED FORMbgMEDIAL FORMbbMEEM FINAL FORMbgINITIAL FORMbhSOLATED FORMbgMEDIAL FORM",
    "bgWITH KHAH FINAL FORMbqINITIAL FORMblMEEM FINAL FORMbqINITIAL FORMbbREH FINAL FORM",
    "bfISOLATED FORMbbYEH FINAL FORMbfISOLATED FORMarUBHAANAHU WA TAAALAAaqTABAARAKA WA-TAAALAA",
    "asH WITH ALEF MAKSURA FINAL FORMbmISOLATED FORMazHAH INITIAL FORMbeSOLATED FORM",
    "azMEEM INITIAL FORMbfSOLATED FORMbeMEDIAL FORMbeWITH HAH FINAL FORMbnINITIAL FORM",
    "bjMEEM INITIAL FORMbjYEH FINAL FORMazYEH FINAL FORMbdISOLATED FORM",
    "arEH WITH ALEF MAKSURA FINAL FORMbmISOLATED FORMazHAH INITIAL FORMbeSOLATED FORM",
    "bdWITH JEEM FINAL FORMbnINITIAL FORMbiMEEM INITIAL FORMbaEH INITIAL FORMbdMEDIAL FORM",
    "azJEEM INITIAL FORMbfSOLATED FORMbeWITH ALEF MAKSURA FINAL FORMbjMEEM INITIAL FORM",
    "bjYEH FINAL FORMazKHAH INITIAL FORMbfSOLATED FORMbeWITH ALEF MAKSURA FINAL FORM",
    "bjMEEM INITIAL FORMbjYEH FINAL FORMazMEEM FINAL FORMbeINITIAL FORMbfSOLATED FORM",
    "beMEDIAL FORMbeWITH ALEF MAKSURA FINAL FORMbjHAH INITIAL FORMbjJEEM INITIAL FORM",
    "bjKHAH INITIAL FORMbjYEH FINAL FORMazNOON FINAL FORMazREH FINAL FORMazYEH FINAL FORM",
    "bdISOLATED FORMazZAIN FINAL FORMarHAL WITH SUPERSCRIPT ALEF ISOLATED FORM",
    "asEH WITH ALEF MAKSURA FINAL FORMbnISOLATED FORMbaHEH MEDIAL FORMbaJEEM ISOLATED FORM",
    "baMEEM FINAL FORMbfINITIAL FORMbgSOLATED FORMbfMEDIAL FORMbaNOON FINAL FORMbaREH FINAL FORM",
    "baYEH FINAL FORMbeISOLATED FORMbaZAIN FINAL FORM",
    "aqUIGHUR KIRGHIZ YEH WITH HAMZA ABOVE WITH ALEF MAKSURA FINAL FORMcsINITIAL FORM",
    "ctSOLATED FORMaqWASALLAM ISOLATED FORMaqYEH WITH ALEF MAKSURA FINAL FORMbmISOLATED FORM",
    "azHAH INITIAL FORMbeSOLATED FORMbdWITH YEH FINAL FORMbbMZA ABOVE WITH AE FINAL FORM",
    "btISOLATED FORMbrLEF FINAL FORMbvISOLATED FORMbvMAKSURA FINAL FORMcdISOLATED FORM",
    "bqE FINAL FORMbsINITIAL FORMbtSOLATED FORMbqHAH INITIAL FORMbvSOLATED FORMbrEH INITIAL FORM",
    "buMEDIAL FORMbqJEEM INITIAL FORMbwSOLATED FORMbqKHAH INITIAL FORMbqMEEM FINAL FORM",
    "bvINITIAL FORMbwSOLATED FORMbvMEDIAL FORMbqNOON FINAL FORMbqOE FINAL FORMbtISOLATED FORM",
    "bqREH FINAL FORMbqU FINAL FORMbsISOLATED FORMbqWAW FINAL FORMbuISOLATED FORMbqYEH FINAL FORM",
    "buISOLATED FORMbrU FINAL FORMbtISOLATED FORMbqZAIN FINAL FORMbaEH INITIAL FORMbdMEDIAL FORM",
    "azJEEM INITIAL FORMbfSOLATED FORMbeWITH YEH FINAL FORMazKHAH INITIAL FORMbfSOLATED FORM",
    "azMEEM FINAL FORMbeINITIAL FORMbfSOLATED FORMbeMEDIAL FORMbeWITH MEEM FINAL FORM",
    "boINITIAL FORMbjYEH FINAL FORMazNOON FINAL FORMazREH FINAL FORMazYEH FINAL FORM",
    "bdISOLATED FORMazZAIN FINAL FORMaqZAH WITH MEEM INITIAL FORMbfSOLATED FORMbeMEDIAL FORM",
    "ahMADDA WAAJIBamH ABOVEajRK NOON GHUNNAamSIDEWAYS NOON GHUNNAajTHEMATICAL AINavLEFauBEHauDAD",
    "awLavOTLESS BEHbcFEHbcNOONbcQAFawUBLE-STRUCK AINbiBEHbiDADbkLbiFEHbiGHAINbiHAHbiJEEMbiKHAH",
    "biLAMbiMEEMbiNOONbiQAFbiREHbiSADbjEENbjHEENbiTAHbjEHbjHALbkEHbiWAWbiYEHbiZAHbkINauFEHauGHAIN",
    "auHAHauINITIAL AINbcBEHbcDADbcFEHbcGHAINbcHAHbdEHbcJEEMbcKAFbdHAHbcLAMbcMEEMbcNOONbcQAFbcSAD",
    "bdEENbdHEENbcTEHbdHEHbcYEHauJEEMauKAFavHAHauLAMavOOPED AINbcLEFbbBEHbbDADbdLbbFEHbbGHAIN",
    "bbHAHbcEHbbJEEMbbKHAHbbLAMbbMEEMbbNOONbbQAFbbREHbbSADbcEENbcHEENbbTAHbcEHbcHALbdEHbbWAWbbYEH",
    "bbZAHbdINauMEEMauNOONauOPERATOR HAH WITH DALbdMEEM WITH HAH WITH TATWEELauQAFauREHauSADavEEN",
    "avHEENavTRETCHED AINbeBEHbeDADbfOTLESS BEHbmFEHbeFEHbeGHAINbeHAHbfEHbeJEEMbeKAFbfHAHbeMEEM",
    "beNOONbeQAFbeSADbfEENbfHEENbeTAHbfEHbfHEHbeYEHbeZAHauTAHawILED AINbbDADbcOTLESS NOONbjQAF",
    "bbGHAINbbHAHbbJEEMbbKHAHbbLAMbbNOONbbQAFbbSADbcEENbcHEENbbYEHavEHavHALawEHauWAWauYEHauZAH",
    "awINahNUMBER MARK ABOVEaoSIGNahOPEN DAMMATANamFATHATANamKASRATANahPERCENT SIGN",
    "aiIASTRE MARK ABOVEaiLACE OF SAJDAHaiOETIC VERSE SIGNajUND MARK ABOVEahQUESTION MARK",
    "ahRAISED ROUND DOTajYaiEVERSED DAMMAaiIGHT ARROWHEAD ABOVEbc WITH DOTaxBELOW",
    "aiOUNDED HIGH STOP WITH FILLED CENTREahSEMICOLONaiHADDAan ISOLATED FORMaoMEDIAL FORM",
    "aiIGN ALAYHE ASSALLAMamMISRAamRADI ALLAHOU ANHUaoHMATULLAH ALAYHEamSAFHA",
    "aoLLALLAHOU ALAYHE WASSALLAMaoMVATaoNAHanINDHI AMPERSANDatPOSTPOSITION MENamTAKHALLUS",
    "aiMALL DAMMAanFARSI YEHapTHAanHIGH AINasDOTLESS HEAD OF KHAHasFARSI YEHatOOTNOTE MARKER",
    "asJEEMasLAM ALEFatIGATURE ALEF WITH LAM WITH YEHbbQAF WITH LAM WITH ALEF MAKSURA",
    "bbSAD WITH LAM WITH ALEF MAKSURAasMADDAatEEM INITIAL FORMaySOLATED FORMasNOONaw WITH KASRA",
    "asQAFasROUNDED ZEROasSADatEENatIGN SAFHAasTAHatHREE DOTSasUPRIGHT RECTANGULAR ZEROasWAW",
    "atORD AL-JUZayN-NISFayR-RUBayS-SAJDAayTH-THALATHAaxQIFaxSAHazKTAaxWAQFAasYEH",
    "av BARREE WITH TWO DOTS BELOWasZAHauINanKASRAanLOW MEEMarNOON WITH KASRAarSEENarWAW",
    "asORD IMAALAaxSHMAAMawTASHEELanWAWanYEHaiTART OF RUB EL HIZBaiUBSCRIPT ALEFajKUNam BELOW",
    "anISOLATED FORManMEDIAL FORMajPERSCRIPT ALEF MOKHASSASaiYMBOL DOT ABOVEasBELOW",
    "aqUBLE VERTICAL BAR BELOWaoFOUR DOTS ABOVEayBELOWaoRINGaoSMALL TAH ABOVEayBELOW",
    "aoTHREE DOTS ABOVEazBELOWazPOINTING DOWNWARDS ABOVEbsBELOWapWO DOTS ABOVEaxBELOW",
    "axVERTICALLY ABOVEbiBELOWaoWASLA ABOVEahTAIL FRAGMENTajTWEELao WITH FATHATAN ABOVE",
    "auOVERSTRUCK HAMZAbfWAWauTWO DOTS BELOWaiHOUSANDS SEPARATORaiONE LOOP ABOVEarBELOW",
    "amONE DOT ABOVEauBELOWamTWO DOTS ABOVEavBELOWaiRIPLE DOT PUNCTUATION MARKaiURNED DAMMA BELOW",
    "ahVERTICAL TAILaiOWEL SIGN DOT BELOWasINVERTED SMALL V ABOVEasSMALL V ABOVE",
    "ahWAVY HAMZA BELOWahZWARAKAYag-INDIC CUBE ROOTanDIGIT EIGHTatFIVEauOURatNINEatONEatSEVENauIX",
    "atTHREEauWOatZEROanFOURTH ROOTanPER MILLE SIGNarTEN THOUSAND SIGNacCacIES",
    "acMENIAN ABBREVIATION MARKakPOSTROPHEajCAPITAL LETTER AYBayBENayCAazHAbaEHazOayDAayECHazHazT",
    "ayFEHayGHADazIMayHOayINIayJAazHEHayKEHbaNayLIWNayMENayNOWayOHayPEHazIWRayRAazEHaySEHazHA",
    "ayTIWNazOayVEWazOayXEHayYIbaWNayZAazHEakOMMAajDRAM SIGNajEMPHASIS MARKakXCLAMATION MARK",
    "ajFULL STOPajHYPHENajMODIFIER LETTER LEFT HALF RINGajQUESTION MARKajSMALL LETTER AYBawBEN",
    "awCAaxHAayEHaxOawDAawECHaxHaxTawFEHawGHADaxIMawHOawINIawJAaxHEHawKEHayNawLIWNawMENawNOWawOH",
    "awPEHaxIWRawRAaxEHawSEHaxHAawTIWNaxOaxURNED AYBawVEWaxOawXEHawYIay WITH STROKEayWNawZAaxHE",
    "aqIGATURE ECH YIWNayMEN ECHbcINIbcNOWbcXEHayVEW NOW",
    "acROW POINTING DOWNWARDS THEN CURVING LEFTWARDSbmRIGHTWARDS",
    "apRIGHTWARDS THEN CURVING DOWNWARDSbnSOUTH WESTbnUPWARDSapUPWARDS THEN NORTH WEST",
    "afHEAD-SHAPED POINTERacTICULATED LORRYaeST PALETTEabSCENDING NODEadIA SYMBOLacSERTION",
    "acTERISKai OPERATORahMadONISHED FACEadRAEAaeONOMICAL SYMBOL FOR URANUS",
    "acYMPTOTICALLY EQUAL TOabTHLETIC SHOEacOM SYMBOLabUBERGINEacSTRAL SIGNacTO RICKSHAW",
    "aeMATED TELLER MACHINEafOBILEabVESTAN ABBREVIATION MARKaiLETTER AaqAarNarOaqEarEaqNaqOapBE",
    "aqHEapCEapDEaqHEapEaqEapFEapGEaqGEaqHEapHEaqMEapIaqIapJEapKEapLEapMEapNEaqGEarVEarYEaqNEaqYE",
    "apOaqOapPEapREapSEaqHEarYEaqSHEapTEaqHEaqTEapUaqUapVEapXEaqVEaqYEapYEaqYEapZEaqHEacOCADOabXE"]

/-- The names that begin with B. -/
def listB : List String :=
  ["aaBABYae ANGELafBOTTLEafCHICKafSYMBOLacCK OF ENVELOPEafWITH LEFTWARDS ARROW ABOVE",
    "ae-TILTED SHADOWED WHITE RIGHTWARDS ARROWaeSLANTED SOUTH ARROW WITH HOOKED TAIL",
    "bfRIZONTAL TAILafPACEadONadTRIAN CAMELacDGERadMINTON RACQUET AND SHUTTLECOCKacGEL",
    "adGAGE CLAIMadUETTE BREADacLINESE ADEG ADEGajCARIK PAMUNGKAHarRERENapSIKIajDIGIT EIGHTapFIVE",
    "aqOURapNINEapONEapSEVENaqIXapTHREEaqWOapZEROajLETTER AIKARAarKARAav TEDUNGarRCHAIC JNYA",
    "arSYURA SASAKaqBAas KEMBANGaqCAas LACAaqDAas MADUauURDA ALPAPRANAazMAHAPRANAaqEF SASAKarKARA",
    "aqGAas GORAaqHAaqIKARAav TEDUNGaqJAas JERAaqKAas MAHAPRANAasF SASAKarHOT SASAKaqLAas LENGA",
    "ay TEDUNGaqMAaqNAas RAMBATarGAarYAaqOKARAav TEDUNGaqPAas KAPALaqRAas REPAax TEDUNGaqSA",
    "as SAGAavPAaqTAas LATIKatMURDA MAHAPRANAatTAWAarZIR SASAKaqUKARAav TEDUNGaqVE SASAKaqWAaqYA",
    "aqZAL SASAKajMUSICAL SYMBOL COMBINING BENDEbiENDEPbiGONGbiJEGOGANbiKEMPLIbo WITH JEGOGANbmUL",
    "bo WITH JEGOGANbiTEGEHayDAENGbaINGbaNGbc GEDEbdSURANGazENGbaUNGazINGazONGazUNG",
    "ayLEFT-HAND CLOSED PLAKbrUKbiOPEN PANGboINGboUNGayRIGHT-HAND CLOSED TAKbrUKbjOPEN DAGbpUG",
    "ajPAMADAap LANTANGamENENGalNTIao LANTANGajSIGN BISAHaoCECEKaoREREKANaoSURANGaoULU CANDRA",
    "asRICEMajVOWEL SIGN LA LENGAbc TEDUNGauPEPETaz TEDUNGauRA REPAbb TEDUNGauSUKUay ILUTauTALING",
    "ba REPAbf TEDUNGbbTEDUNGavEDUNGauULUax SARIajWINDUadL OF YARNaeET SHOESaeOON",
    "ah-SPOKED ASTERISKafT BOLD SCRIPT XajXak WITH BALLOTarOLD CHECKavSCRIPT XaqCHECKaqLIGHT X",
    "aqSCRIPT XaqXahSCRIPT XahXacMUM COLONaiMBINING MARK KOQNDONavTUKWENTISajMAagFULL STOP",
    "agLETTER AanEEanFAAMAEaoEEaoOMaoUanIanKAaoENapTapUXaoIaoOapGHOMapVUUaoPAaoUaoYEEanLAaoEEEE",
    "aoIaoOQaoUanMaoAaoBAAapENaoEEEEapNaoIaoOaoUanNAaoDAAaoGAapGAapKWAENaoIaoJAEMapEEapUAEaoSHA",
    "aoTEEapUUaoUapAEaoYIanOanPAaoEEapUXaoHASE-A FIRIavGBIEE FONawHEUAEGHEUAEbbRAEavKAFAaxQawET",
    "axUKEUTNDAawPOQawUOQavLAPAQawET KUTawOMMAEawUaxAEPavMAEKEUPayMazBGBIEEazKPENazVEUXayNYIaySI",
    "axNSUAEaxP PIEETawBANYIayQawEUNJOMNDEUQawGBASAawON NGGEUAETaxOMEUTazPUQawVEUAENGAMavNAA MFON",
    "axQawDA LEERAEWAayANGGEUAETawENawGANGUaxGENaxKUE MFONbaNZEUMawIKAawJAMawKAARAEaxINDIawSHA",
    "ayIEEawTAPaz MFAAbaNTAAaxOQPENawYETaxIayT MONGKEUAEQawZA MFONaxUN MEUTavPA LEERAEWAaxAMayRAE",
    "axMSHAEaxSHAEawETawON MFON PIPAEMBAbkGBIEEazPA NJI PIPAEMBAbmGBIEEawUPavROMavSEUNYAM",
    "awHINDA PA NJIayRAEaxOQ NSHUT YUMaxUENSHUETayMawISAawONJAMaxQaxTawUUavTEUAENayTEUWEN",
    "awITA MFONawU MAEMBAaxAEPavU YUQ NAEawNKNOWNavVEEatB FEEaxUXavGHEUGHENbcUAEMavKAMawEUAEM",
    "ayPUQayYEUXawIEEMaxQavLAANAEaxM NSHUT NYAMawETawOM NTEUMavMAax NJEUAENAbaUQAawBA MAELEE",
    "ayARAEaxEURIaxIT MBAAKETaxUOQawEUQayT NGGEETawFIYAQaxON TEUAEQawONTIEENavNDU NJAAawGGAAM",
    "ayEU MBUayUOQbb LARGEaxKINDI MVOPaxOMawSENaxHUETawTIEE SHEUOQawYAEMAEaxI NTEUMavPARUMawEESHI",
    "awITawUNGAAMavSAKEUAEawET TUawHET NJAQayUAEQTUawIEEawUEavTAAMawU MAEMGBIEEayNSIEEavVEUM",
    "avWUAETavYAFU LEERAEWAawEURAEatC BUNGavFUEavGBAYIawHAPayRAEavKAAawEN FATIGUEazLAWaxTaxUKAQ",
    "ayMaySEUXazHEUAEPawPARAQawUOP NKAARAEaxTavLAMaxPawIQawUavMA KEUAERIayNSIEEaxEMBAaySI",
    "awBAA CABBAGE-TREEbaPICKETayNYIaxEEKEETayRAEayUMazXaxIayRIEENayTaxUAEMayEawGBASAQawIEEawUAE",
    "avNANSANAQaxQawDAMayPaxEUAEREEazTaxIDAaxOMBUawGAQaxGENayUazAEN NYAMazEETazMazONaxKAQ",
    "ayUE MAEMBAaxOMawJAEMayMaxEEEEayUXaxUEQawSAaxEUAENaxHAQaxOMaxUNayOT NGOMawTAAaxENayUNGBA",
    "axU MBITawYIR MKPARAQ MEUNawZAaxEUMavPENawINaxRIEENavRUavSETFONaxUXawHIQaxUEQawUAETavTAASHAE",
    "awETaxUTEUXawITA YUEayUAEPavVEUAEPENayXavWANGKUOQawUPavYAAawEUQawU MUOMAEaxMaxWOQatD FAA",
    "awEUFEUAETavGHAAaxEUAEavKETaxUAETMEUNayMayOT MBUAEayPawUaxNaxOMaxQawWAETawYEEavLEEEEaxT",
    "axUAEPayMawIEEawOQawUMavMawAENJETaxLEERIawBAAaz SEVENaxUOawEEEEaxUNayTawFEUAEazTaxIEEaxOayN",
    "awGBEUNayIEEayOFUMawONIawUawVOPavNDAMaxEEayUXaxONawGGAAMbbAEazPayEUXayUOMayWAENaxKAPayEUAEQ",
    "baRIayIEEayUNayYEEawIawJAPaxEUAEMazTaxIayEEaxUEQawSHEEayUTaxIEEPbaTaxUMawTEEayUMaxUUawUawYAM",
    "axETaxIaxUEavPAPawEEaxUTAEawIPawUQaxUTavRAEMawEN MUCHazOLDawIIavSAPaxQawEUAEQawHEEayUAEazX",
    "axIIaxOQaxUawOTawUAEaxEaxUavTAEawEEEEaxUAENayNayTawIawOQawUaxOTavWAPawUAENavYAEMMAEawENawUOM",
    "ayPaxWOQatE AavFAaxQawEEawOMawU CALLayIayREMEDYaxEayTavGBETayUXawHAAMAEaxETayUAEazNazXaxOM",
    "avIavKETaxUAEayXawIawOawPEUXawUETaxOPaxTavLAAMaxPaxQawEUAEMawOMaxONayTaxQawUavMAaxEayMaxPaxQ",
    "awBEEayUMawENawFEUQawGBAayENawIaxEEawONawUAEawVIavNAaxEawDAA MY HOUSEbaSOFTNESSayPaxIAQayQ",
    "axUNawGAaxEUREUTaxGEEEEazUAEbcTayUAESHAE NYAMazPazRAEaxKAazAMIayEUAEMbaXayUMazPaxOPayQaxUAE",
    "baTawJAEMLIaxEEaz EPOCHayUXawKOMawSHIEEayUEazOPawTAPaxUMawYI BETWEENazCLEAVERawZAQaxUQavO",
    "avPA PEOPLEazLURALaxAayMawEEMaxUTayXawIaxEEQayTawOaxONawUaxAEayQaxEaxMavRAEaxQawEUXawIMGBA",
    "avSAAawEEaxTawHEUAEQaxIQaxOayQawOMawUAENavTAAayQaxEN NTEUMaxMaxQawENaxUayAEQawOOayNaxQawUAE",
    "axMayAEavVEEaxUAEawOMavWEUXawUEaxOavYAPawEUAEbaTayMayXawIEEaxTawOQ COVERazSWIMMINGawUAENaxEQ",
    "axNaxQatF EEavFOMavKAawENaxTawOawPAawUawYEEavLAawIawOQavMawAawBAAaxENawEEEEawOavNDAAawGGA",
    "axKWAENawIawJAEMaxUAEawSHAawTEEawUaxAEawYIavPEEaxUXawUAEavREEaxNaxUXawIEEaxIawUavSAMBAawEUX",
    "awHIIaxOaxUawIawUUavTAAaxEawETavUavVUEQavWAawUEavYAawOQaoIaoUAEapEanRAEaoEEapNapUXaoIEEapI",
    "aoUanSAMBAaoEUXaoHEUXapIIapOapUaoIaoUUanTAAapEaoENapTaoIanUanWAaoUEanYAaoOQaoUQagNJAEMLI",
    "agQUESTION MARKagSEMICOLONacNANAadJOadKaeNOTE WITH DOLLAR SIGNaoEURO SIGNaoPOUND SIGN",
    "aoYEN SIGNacR CHARTaeOF SOAPadBER POLEacSEBALLadKETagBALL AND HOOP",
    "adSA VAH COMBINING HIGH TONEay-LOW TONEauLOW TONEax-MID TONEauMID TONEakFULL STOPakLETTER A",
    "arBAarCEarDHIIasOarEasEasNNIarFAarGAHasBUarHWAHarIarJOarKAasPAHarMBEarOasOarPAarSEarTOarU",
    "asWUarVUarWAatDDAarYEINasIEarZOacTadAK CONSONANT SIGN HavNGagLETTER AanBAanCAanDAanGAanHAanI",
    "anJAanKARO BAanLAanMAapNDAILING HAayNAaySAaoBAanNAaoDAaoGAaoORTHERN TAaoYAanPAapKPAK WAanRA",
    "anSAaoIMALUNGUN AayGAayHAayLAayMAayPAayRAaySAayWAayYAaoOUTHERN TAanUanWAanYAagPANGOLAT",
    "ajONGONANagSIGN TOMPIahYMBOL BINDU JUDULatNA METEKatPANGOLATauINARBORASagVOWEL SIGN EasEarI",
    "arKARO IawOarOarPAKPAK EarUas FOR SIMALUNGUN SAadHaeTUBadTERYabEACH WITH UMBRELLA",
    "adMED ASCENDING MUSICAL NOTESahDESCENDING MUSICAL NOTESahEIGHTH NOTESahSIXTEENTH NOTESadNS",
    "adR FACEaeDED PERSONadTING HEARTadVERacCAUSEacDacER MUGadTLEacLadLae PEPPERafSYMBOL",
    "afWITH CANCELLATION STROKEaeHOP BELLacNGALI ABBREVIATION SIGNajNJIajU LENGTH MARK",
    "aiCURRENCY DENOMINATOR SIXTEENarNUMERATOR FOURbbONEbe LESS THAN THE DENOMINATORbbTHREEbcWO",
    "aiDIGIT EIGHTaoFIVEapOURaoNINEaoONEaoSEVENapIXaoTHREEapWOaoZEROaiGANDA MARKaiISSHAR",
    "aiLETTER AaqAaqIaqUapBAaqHAapCAaqHAapDAaqDAarHAaqHAapEapGAaqHAapHAapIaqIapJAaqHAapKAaqHA",
    "asNDA TAapLAapMAapNAaqGAaqNAaqYAapOapPAaqHAapRAar WITH LOWER DIAGONALaxMIDDLE DIAGONALaqHA",
    "aqRAapSAaqHAaqSAapTAaqHAaqTAarHAapUaqUapVEDIC ANUSVARAaqOCALIC LayLaxRayRapYAaqYA",
    "aiRUPEE MARKaoSIGNaiSANDHI MARKajIGN ANUSVARAaoVAGRAHAanCANDRABINDUanNUKTAanVIRAMAapSARGA",
    "aiVOWEL SIGN AAauIauUatEatIauIatOatUauUatVOCALIC LbcLbbRbcR",
    "adT ARROW POINTING DOWNWARDS THEN NORTH EASTaeO BOXadZENE RINGam WITH CIRCLEacT SYMBOLadWEEN",
    "acVERAGE BOXabHAIKSUKI DANDAalIGIT EIGHTaqFIVEarOURaqNINEaqONEaqSEVENarIXaqTHREEarWOaqZERO",
    "alOUBLE DANDAakGAP FILLER-1av2akHUNDREDS UNIT MARKakLETTER AasAasIasUarBAasHAarCAasHAarDA",
    "asDAatHAasHAarEarGAasHAarHAarIasIarJAasHAarKAasHAarLAarMAarNAasGAasNAasYAarOarPAasHAarRAarSA",
    "asHAasSAarTAasHAasTAatHAarUasUarVAasOCALIC LazRbaRarYAakNUMBER EIGHTawYarFIFTYatVEasORTYatUR",
    "arNINEavTYarONEarSEVENawTYasIXauTYarTENasHIRTYatREEasWENTYatOakSIGN ANUSVARAaqVAGRAHA",
    "apCANDRABINDUapVIRAMAarSARGAakVOWEL SIGN AAawIawUavEavIawIavOavUawUavVOCALIC LbdRbeR",
    "akWORD SEPARATORabICYCLEagISTacG REVERSE SOLIDUSaeSOLIDUSacKINIacLLED CAPaeIARDS",
    "acOHAZARD SIGNacRDadTHDAY CAKEacSONacTCOIN SIGNadING LIPabLACK BOWTIEagCENTRE WHITE STAR",
    "ahHESS BISHOPas ROTATED NINETY DEGREESbbTWO HUNDRED SEVENTY DEGREESamEQUIHOPPER",
    "aw ROTATED NINETY DEGREESamKINGaq ROTATED NINETY DEGREESazTWO HUNDRED SEVENTY DEGREESanNIGHT",
    "as ROTATED FORTY-FIVE DEGREESbbNINETY DEGREESbbONE HUNDRED THIRTY-FIVE DEGREES",
    "bbTHREE HUNDRED FIFTEEN DEGREESbcWO HUNDRED SEVENTY DEGREESbnTWENTY-FIVE DEGREESas-BISHOP",
    "atQUEENatROOKamPAWNaq ROTATED NINETY DEGREESazTWO HUNDRED SEVENTY DEGREESamQUEEN",
    "ar ROTATED NINETY DEGREESbaTWO HUNDRED SEVENTY DEGREESamROOKaq ROTATED NINETY DEGREES",
    "azTWO HUNDRED SEVENTY DEGREESamTURNED BISHOPatKINGauNIGHTatPAWNatQUEENatROOKahIRCLE",
    "am FOR RECORDanWITH DOWN ARROWasTWO WHITE DOTSasWHITE DOT RIGHTahLUB SUITahROSS ON SHIELD",
    "ahURVED DOWNWARDS AND LEFTWARDS ARROWbbRIGHTWARDS ARROWanLEFTWARDS AND DOWNWARDS ARROW",
    "bbUPWARDS ARROWanRIGHTWARDS AND DOWNWARDS ARROWbcUPWARDS ARROWanUPWARDS AND LEFTWARDS ARROW",
    "azRIGHTWARDS ARROWagDIAMONDan CENTREDaoMINUS WHITE XaoON CROSSaoSUITaoWITH DOWN ARROW",
    "ahOWN POINTING BACKHAND INDEXak-POINTING DOUBLE TRIANGLEauISOSCELES RIGHT TRIANGLE",
    "auSMALL TRIANGLEauTRIANGLEakWARDS EQUILATERAL ARROWHEADahRAUGHTS KINGapMANaiOPLETagFLAG",
    "aiORETTEahOLDERaiUR POINTED STARagHARD SHELL FLOPPY DISKahEARTal SUITaiXAGON",
    "ahORIZONTAL ELLIPSEaiURGLASSagLARGE CIRCLEamSQUAREahEFT LANE MERGEalPOINTING BACKHAND INDEX",
    "auINDEXak-POINTING DOUBLE TRIANGLEbj WITH VERTICAL BARauISOSCELES RIGHT TRIANGLEauPOINTER",
    "auSMALL TRIANGLEauTRIANGLEakWARDS BULLETaqEQUILATERAL ARROWHEADahOWER LEFT TRIANGLE",
    "amRIGHT TRIANGLEaiZENGEagMEDIUM DIAMONDaoOWN-POINTING TRIANGLEbj CENTRED",
    "anLEFT-POINTING TRIANGLEbj CENTREDaoOZENGEanRIGHT-POINTING TRIANGLEbk CENTREDanSMALL DIAMOND",
    "atLOZENGEatSQUAREaoQUAREanUP-POINTING TRIANGLEbh CENTREDahOON LILITHagNIBagOCTAGON",
    "agPARALLELOGRAMahENNANTajTAGONahUSHPINagQUESTION MARK ORNAMENTagRECTANGLE",
    "ahIGHT POINTING BACKHAND INDEXavINDEXal-POINTING DOUBLE TRIANGLEbk WITH VERTICAL BAR",
    "avISOSCELES RIGHT TRIANGLEavPENTAGONawOINTERavSMALL TRIANGLEavTRIANGLE",
    "bd WITH DOUBLE VERTICAL BARalWARDS ARROWawHEADarBULLETarEQUILATERAL ARROWHEADahOSETTE",
    "agSAFETY SCISSORSahCISSORSahHOGI PIECEahKULL AND CROSSBONESahLIGHTLY SMALL CIRCLEavSQUARE",
    "ahMALL DIAMONDamLOZENGEamSQUAREanTARaiILING FACEahNOWMANahPADE SUITahQUAREam BUTTONanCENTRED",
    "anFOR STOPahTARahUN WITH RAYSagTELEPHONEahINY DIAMONDalLOZENGEalSQUAREahOUCHTONE TELEPHONE",
    "ahRUCKahWO-WAY LEFT WAY TRAFFICagUNIVERSAL RECYCLING SYMBOLahP POINTING BACKHAND INDEX",
    "ai-POINTING DOUBLE TRIANGLEasISOSCELES RIGHT TRIANGLEasSMALL TRIANGLEasTRIANGLE",
    "aiPER LEFT TRIANGLEamRIGHT TRIANGLEaiWARDS EQUILATERAL ARROWHEADagVERTICAL ELLIPSE",
    "apRECTANGLEajY SMALL DIAMONDarLOZENGEarSQUAREaf-FEATHERED NORTH EAST ARROWaqRIGHTWARDS ARROW",
    "aqSOUTH EAST ARROWagLETTER CAPITAL CavHavIavRavZadNK SYMBOLacOCK SEXTANT-1ap2aq3ar4as5as6ar5",
    "as6ar6aq4ar5as6ar6aq5ar6aq6ap3aq4ar5as6ar6aq56aq6ap4aq5ar6aq6ap5aq6ap6ao2ap3aq4ar5as6ar6aq5",
    "ar6aq6ap4aq5ar6ap5aq6ap6ao3ap4aq5ar6aq6ap5aq6ap6ao4ap5aq6ap6ao5ap6ao6adSSOMadWFISHacUE BOOK",
    "afHEARTaeBERRIESabOARacLD EIGHT SPOKED ASTERISKafFIVE SPOKED ASTERISKafGREEK CROSSafSALTIRE",
    "agIX SPOKED ASTERISKafWHITE CIRCLEalSQUAREacMadBacNEacOKaeMARKai TABSaeSadMERANG",
    "acPOMOFO FINAL LETTER GawHawKawPawTajLETTER AarHarIasNNarMarNasGasNarUasNNaqBarUaqCarHaqDaqE",
    "arEarHarIarNasGasNarRaqFaqGarHarNarUarWaqHaqIarHarMarNNatNarRarUaqJarIaqKarWaqLarHaqMaqNarG",
    "asGarNaqOar WITH DOT ABOVEarEarMarNGasNarOarUaqPaqQaqRaqSarHaqTaqUarNNaqVaqXaqZarHarIarY",
    "acTTLE WITH POPPING CORKaeOM ARC ANTICLOCKWISE ARROWahCURLY BRACKETahHALF BLACK CIRCLE",
    "amINTEGRALamLEFT PARENTHESISamRIGHT PARENTHESISahLEFT CORNERanROPamHALF BRACKETahPARENTHESIS",
    "ahRIGHT CORNERaoROPanHALF BRACKETahSQUARE BRACKETav OVER TOP SQUARE BRACKET",
    "ahTORTOISE SHELL BRACKETacUQUETah OF FLOWERSacW AND ARROWadL OF HYGIEIAafWITH SPOONaeING",
    "adTIEag WITH LEFT HALF BLACKamRIGHT HALF BLACKacX DRAWINGS DOUBLE DOWN AND HORIZONTALbdLEFT",
    "bdRIGHTauHORIZONTALauUP AND HORIZONTALbbLEFTbbRIGHTauVERTICALbc AND HORIZONTALbhLEFTbhRIGHT",
    "apWN DOUBLE AND HORIZONTAL SINGLEbdLEFT SINGLEbdRIGHT SINGLEasHEAVY AND HORIZONTAL LIGHT",
    "bcLEFT LIGHTbhUP LIGHTbcRIGHT LIGHTbiUP LIGHTbcUP HORIZONTAL LIGHT",
    "asLIGHT AND HORIZONTAL HEAVYbcLEFT HEAVYbhUP HEAVYbcRIGHT HEAVYbiUP HEAVY",
    "bcUP HORIZONTAL HEAVYasSINGLE AND HORIZONTAL DOUBLEbdLEFT DOUBLEbdRIGHT DOUBLE",
    "anHEAVY DOUBLE DASH HORIZONTALbfVERTICALavWNax AND HORIZONTALbcLEFTbcRIGHTatHORIZONTALatLEFT",
    "ax AND LIGHT RIGHTatQUADRUPLE DASH HORIZONTALbiVERTICALatRIGHTatTRIPLE DASH HORIZONTAL",
    "bfVERTICALatUPav AND HORIZONTALbaLEFTbbIGHT DOWNbaRIGHTatVERTICALbb AND HORIZONTALbgLEFT",
    "bgRIGHTanLEFT DOWN HEAVY AND RIGHT UP LIGHTasHEAVY AND RIGHT DOWN LIGHTbiUP LIGHT",
    "biVERTICAL LIGHTasLIGHT AND RIGHT DOWN HEAVYbiUP HEAVYbiVERTICAL HEAVY",
    "asUP HEAVY AND RIGHT DOWN LIGHTaoIGHT ARC DOWN AND LEFTbgRIGHTaxUP AND LEFTbeRIGHT",
    "atDIAGONAL CROSSbcDIAMONDbcMIDDLE LEFT TO LOWER CENTREcd TO MIDDLE RIGHT",
    "brUPPER CENTRE TO MIDDLE RIGHTct TO LOWER CENTREbjRIGHT TO LOWER CENTRE",
    "bsUPPER CENTRE TO MIDDLE LEFT TO LOWER CENTREbcUPPER CENTRE TO MIDDLE LEFT",
    "cd AND MIDDLE RIGHT TO LOWER CENTREceTO LOWER CENTREct TO MIDDLE RIGHTbzRIGHT",
    "ce AND MIDDLE LEFT TO LOWER CENTREcfTO LOWER CENTREcu TO MIDDLE LEFTbiLEFT TO LOWER RIGHT",
    "biRIGHT TO LOWER LEFTauOUBLE DASH HORIZONTALbfVERTICALavWNax AND HORIZONTALbcLEFTbcRIGHT",
    "atHORIZONTALbd WITH VERTICAL STROKEatLEFTax AND HEAVY RIGHTatQUADRUPLE DASH HORIZONTAL",
    "biVERTICALatRIGHTatTRIPLE DASH HORIZONTALbfVERTICALatUPav AND HEAVY DOWNbbORIZONTALbaLEFT",
    "baRIGHTatVERTICALbb AND HORIZONTALbgLEFTbgRIGHTanRIGHT DOWN HEAVY AND LEFT UP LIGHT",
    "atHEAVY AND LEFT DOWN LIGHTbiUP LIGHTbiVERTICAL LIGHTatLIGHT AND LEFT DOWN HEAVYbiUP HEAVY",
    "biVERTICAL HEAVYatUP HEAVY AND LEFT DOWN LIGHTanUP DOUBLE AND HORIZONTAL SINGLEbbLEFT SINGLE",
    "bbRIGHT SINGLEaqHEAVY AND DOWN HORIZONTAL LIGHTbaHORIZONTAL LIGHTbaLEFT DOWN LIGHTbfLIGHT",
    "baRIGHT DOWN LIGHTbgLIGHTaqLIGHT AND DOWN HORIZONTAL HEAVYbaHORIZONTAL HEAVY",
    "baLEFT DOWN HEAVYbfHEAVYbaRIGHT DOWN HEAVYbgHEAVYaqSINGLE AND HORIZONTAL DOUBLEbbLEFT DOUBLE",
    "bbRIGHT DOUBLEanVERTICAL DOUBLE AND HORIZONTAL SINGLEbhLEFT SINGLEbhRIGHT SINGLE",
    "awHEAVY AND HORIZONTAL LIGHTbgLEFT LIGHTbgRIGHT LIGHTawLIGHT AND HORIZONTAL HEAVY",
    "bgLEFT HEAVYbgRIGHT HEAVYawSINGLE AND HORIZONTAL DOUBLEbhLEFT DOUBLEbhRIGHT DOUBLE",
    "adING GLOVEacYadS SYMBOLabPHabRAHMI DANDAaiIGIT EIGHTanFIVEaoOURanNINEanONEanSEVENaoIX",
    "anTHREEaoWOanZEROaiOUBLE DANDAahLETTER AapAapIapUaoBAapHAaoCAapHAaoDAapDAaqHAapHAaoEaoGAapHA",
    "aoHAaoIapIaoJAapHAaoKAapHAaoLAapLAaoMAaoNAapGAapNAapYAaoOapLD TAMIL LLAbaLAayNNNAayRRA",
    "aySHORT EbeOaoPAapHAaoRAaoSAapHAapSAaoTAapHAapTAaqHAaoUapUaoVAapOCALIC LaxLawRaxRaoYA",
    "ahNUMBER EIGHTatYaoFIFTYaqVEapORTYaqURaoJOINERaoNINEasTYaoONEar HUNDREDasTHOUSANDaoSEVENatTY",
    "apIXarTYaoTENapHIRTYaqREEapWENTYaqOahPUNCTUATION CRESCENT BARatDOTavUBLE DOTatLINEauOTUS",
    "ahSIGN ANUSVARAamCANDRABINDUamJIHVAMULIYAamOLD TAMIL VIRAMAamUPADHMANIYAamVISARGAahVIRAMA",
    "aiOWEL SIGN AAatIatUasBHATTIPROLU AAasEasIatIasOatLD TAMIL SHORT EbiOasUatUasVOCALIC LbbLbaR",
    "bbRadILLE PATTERN BLANKaqDOTS-1aw2ax3ay4az5ba6bb7bc8bb8ba7bb8ba8az6ba7bb8ba8az7ba8az8ay5az6",
    "ba7bb8ba8az7ba8az8ay6az7ba8az8ay7az8ay8ax4ay5az6ba7bb8ba8az7ba8az8ay6az7ba8az8ay7az8ay8ax5",
    "ay6az7ba8az8ay7az8ay8ax6ay7az8ay8ax7ay8ax8aw3ax4ay5az6ba7bb8ba8az7ba8az8ay6az7ba8az8ay7az8",
    "ay8ax5ay6az7ba8az8ay7az8ay8ax6ay7az8ay8ax7ay8ax8aw4ax5ay6az7ba8az8ay7az8ay8ax6ay7az8ay8ax7",
    "ay8ax8aw5ax6ay7az8ay8ax7ay8ax8aw6ax7ay8ax8aw7ax8aw8av2aw3ax4ay5az6ba7bb8ba8az7ba8az8ay6az7",
    "ba8az8ay7az8ay8ax5ay6az7ba8az8ay7az8ay8ax6ay7az8ay8ax7ay8ax8aw4ax5ay6az7ba8az8ay7az8ay8ax6",
    "ay7az8ay8ax7ay8ax8aw5ax6ay7az8ay8ax7ay8ax8aw6ax7ay8ax8aw7ax8aw8av3aw4ax5ay6az7ba8az8ay7az8",
    "ay8ax6ay7az8ay8ax7ay8ax8aw5ax6ay7az8ay8ax7ay8ax8aw6ax7ay8ax8aw7ax8aw8av4aw5ax6ay7az8ay8ax7",
    "ay8ax8aw6ax7ay8ax8aw7ax8aw8av5aw6ax7ay8ax8aw7ax8aw8av6aw7ax8aw8av7aw8av8aeNacEAD",
    "aeK PERMITTED HEREaeST-FEEDINGadVEacICKadDE WITH VEILaeGE AT NIGHTadEFCASEafSacOCCOLI",
    "adKEN BARahCIRCLE WITH NORTHWEST ARROWahHEARTadOMadWN HEARTabSabUBBLE TEAagSacCKETacG",
    "adINESE END OF SECTIONajLETTER AaqBAaqCAaqDAaqGAaqHAaqJAaqKAaqLAaqMAarPAaqNAarGAasKAarRAarYA",
    "asCAaqPAaqRAaqSAaqTAaqVAaqYAajPALLAWAajVOWEL SIGN AEauEauIauOauUacHID LETTER AanBAanDAanGA",
    "anHAanIanKAanLAanMAanNAaoGAanPAanRAanSAanTAanUanWAanYAagVOWEL SIGN IarUacILDING CONSTRUCTION",
    "acLLETag OPERATORaeHORNai WITH SOUND WAVESaeSEYEacRRITOacSad STOPadT IN SILHOUETTE",
    "aeS IN SILHOUETTEacTTERagFLYabYTE ORDER MARKacZANTINE MUSICAL SYMBOL AGOGI ARGIbiOTERI",
    "bfGORGIbjOTERIbfMESIbhTRIAbfPOLI ARGIbkGORGIbaNATRICHISMAbbTIKENOKYLISMAbhMA",
    "baPESO EKFONITIKONbgXO NEObbLIbbODERMA ARCHAIONbiNEObcSTROFOI SYNDESMOS NEO",
    "bkTELOUS ICHIMATOSbiSbj DIPLIbkNEObcTHEMAbaRGONbdSYNTHETONbbKTIKO DIbhGAbhKEbhNIbhPAbhVOU",
    "bhZOazCHAMILIbfONbbOREVMA ARCHAIONbiNEObbROA KLITONbfSPATHIbfZYGOSazDASEIAbaIARGON",
    "bcSTOLI APLI MEGALIboIKRIbiDIPLIbiTHESEOSbbESIS APLI DYO DODEKATAbgDIGRAMMOS EX DODEKATA",
    "bgMONOGRAMMOS TESSERA DODEKATAbgTETARTIMORIONbhRIGRAMMOS OKTO DODEKATAbjTIMORIONbbFTOGGOS OU",
    "bbGORGONbh PARESTIGMENON ARISTERA ANOcfKATObwDEXIAbcRAMMA GGbbPLIbe ARCHAIONbaYOazEKSTREPTON",
    "baLAFRONbaNARXIS KAI FTHORA VOUbbDOFONONbaPEGERMAbaTERON ARGOSYNTHETONbgPARAKALESMA",
    "baXO EKFONITIKONazFANEROSIS DIFONIASbjMONOFONIASbjTETRAFONIASbaHTORA SKLIRON CHROMA VASIS",
    "baTHORA ARCHAIONbo DEYTEROU ICHOUbgDIATONIKI DIbqKEbqNANAbrI ANObtKATObqPAbqZO",
    "bgENARMONIOS ANTIFONIAbgI YFESIS TETARTIMORIONbgMALAKON CHROMA DIFONIASbvMONOFONIAS",
    "bgNAOS ICHOSbhENANObgSKLIRON CHROMA SYNAFIbvVASISboDIATONON DIazGENIKI DIESISbgYFESIS",
    "baORGON ARCHAIONbgNEO ANObkKATObgPARESTIGMENON ARISTERAbuDEXIAbeSYNTHETONbcTHMIKON N APLOUN",
    "bmDIPLOUNbaRONTHISMATAazICHADINbaMIDIARGONbcFONONbdTHORAbhONbaSAKIA TELOUS ICHIMATOS",
    "bbON ARCHAIONbeNEOazKATAVA TROMIKONbfSMAbcHISTIbaENTIMA ARCHAIONbhNEO ANOblKATOblMESObgTA",
    "bi ARCHAIONbjNEO ANObnKATObnMESObaLASMAbf ANObgKATObaONTEVMAbh ALLObbRONISbbUFISMA",
    "baRATIMA ALLObiRCHAIONbhNEObgTAbfOKOUFISMAbgYPORROONbbEMASTIbaYLISMAazLEIMMA DYO CHRONON",
    "bgENOS CHRONOUbgIMISEOS CHRONOUbgTESSARON CHRONONbhRION CHRONONbbMOIbaYGISMA",
    "azMARTYRIA ALLI DEYTEROS ICHOSbnPROTOS ICHOSbiDEYTEROS ICHOSbiLEGETOS ICHOSbiPLAGIOS ICHOS",
    "bqTETARTOS ICHOSbjROTOS ICHOSbnVARYS ICHOSbiTETARTOS ICHOSbrLEGETOS ICHOSbjRIFONIAS",
    "blTOS ICHOSbiVARYS ICHOSbaIKRON ISONazNANAazOLIGON ARCHAIONbgNEObaMALONbaXEIA DIPLI",
    "bfEKFONITIKONbfNEObeI ARCHAIONbaYRANISMA ARCHAIONbjNEOazPARAKALESMA ARCHAIONblNEObeLITIKI",
    "bk ARCHAIONblNEObcICHONbaELASTONbh NEObbRISPOMENIbbTASMAbeTIbfOKOUFISMAbaIASMA ARCHAIONbgNEO",
    "baSIFISTOLYGISMAbhNbi NEObhPARAKALESMAbhSYNAGMAbcLIbdONazRAPISMAbaEVMAazSAXIMATAbaEISMA",
    "bf NEObaIMANSIS ARSEOSbo DISIMOUbpTETRASIMOUbqRISIMOUbiTHESEOSbp DISIMOUbqTETRASIMOU",
    "brRISIMOUbaTAVROSbg APODEXIAbbIGMAbbRAGGISMATAbaYNAGMA ARCHAIONbhMETA STAVROUbhNEObcEVMA",
    "bbRMAbeTIKIazTELEIAbbSSERAbbTRAPLIbaHEMAbe APLOUNbeTISMOS ESObmXObcS KAI APOTHESbbITA",
    "baINAGMAbaRIAbcGORGONbcPLIbbOMIKOLYGISMAbgN ALLObjRCHAIONbiNEObgPARAKALESMAbhSIFISTON",
    "bgSYNAGMAazVAREIA DIPLIbgEKFONITIKONbgNEObfI ARCHAIONbbTHYazXIRON KLASMAazYFEN ANObeKATO",
    "bcSIS APLI DYO DODEKATAbgDIGRAMMOS EX DODEKATAbgMONOGRAMMOS TESSERA DODEKATA",
    "bgTRIGRAMMOS OKTO DODEKATAbjTIMORIONbaPOKRISISbi DIPLIbcRROIbbSILI"]

/-- The names that begin with C. -/
def listC : List String :=
  ["aaCACTUSacDA UNAadUCEUSacLENDARadL ME HANDacMERAag WITH FLASHadPINGacNadADIAN SYLLABICS AauA",
    "avIavYauIavVILIK BauNauTHAPASCAN MbeSauYatBEAVER DENE LbfRauIBLE-CREE YauLACKFOOT AbdEbdI",
    "bdKAbeEbeIbeObdNAbeEbeIbeObdObdSbdWbeAbeEbeIbeOatCauAavAawIavRRIER CHAbdEbeEbdIbdObdUbbDEE",
    "bdNE GEEbeTAL SbcIbcLAbdEbeEbdIbdObdUbcZAbdEbeEbdIbdObdUbbEEbbGAbdAbcEbdEbcHAbdEbeEbdIbdObdU",
    "bcIbcObcUbcWAbdUbbHbcEEbcIbcWAbdEbeEbdIbdObdUbbIbcNITIAL ZbbJAbcEbdEbcIbcJAbdEbeEbdIbdObdU",
    "bcObcUbcWAbbKHAbdEbeEbdIbdObdUbcKbdAbdEbeEbdIbdObdUbbLAbcEbdEbcHAbdEbeEbdIbdObdUbcIbcObcU",
    "bbMAbcEbdEbcIbcObcUbbNAbcEbdEbcGbcIbcObcUbbPbcAbcEbdEbcIbcObcUbbRAbcEbdEbcIbcObcUbbSAbcEbdE",
    "bcHbdAbdEbeEbdIbdObdUbcIbcObcUbbTHAbdEbeEbdIbdObdUbcLAbdEbeEbdHAbeEbfEbeIbeObeUbdIbdObdUbcSA",
    "bdEbeEbdIbdObdUbcTAbdEbeEbdIbdObdSAbeEbfEbeIbeObeUbdUbbWAbcEbdEbcIbcObcUbbYAbcEbdEbcIbcObcU",
    "bbZbcAbcEbdEbcIbcObcUauEauHI SIGNauIavIauOavOauWAawAavEavIawIavOawOatEauASTERN WauNatFauAavA",
    "awIauEauIavIavNAL ACUTEazBOTTOM HALF RINGazDOUBLE ACUTEbgSHORT VERTICAL STROKESbbWN TACK",
    "azGRAVEazMIDDLE DOTazPLUSazRAISED DOTbaIGHT HALF RINGbbNGazSHORT HORIZONTAL STROKE",
    "baMALL RINGazTOP HALF RINGauOavOauULL STOPauWAAatGLOTTAL STOPatHKauYPHENatIauIauNatKauAavA",
    "awIavYauEauIavIauOavOauWavAawAawYavEavIawIavOawOatLauAavAawIavYauEauHavAawAavIawIavOawOauI",
    "avIauOavOauWAawAavEavIawIavOawOatMauAavAawIavYauEavDIAL LbaRauHauIavIauOavOawSE-CREE SKauWA",
    "awAavEavIawIavOawOatNau-CREE THEbcIbdIauAavAawIavSKAPI CWAAbbKWAAbbMWAAbbNWAAbbS-WbcCWAbcKW",
    "beAbcPWAbcTWAbcWAAbbTWAAbbWAAbcOObbYWAAavTTILIK HAbeAbdIbeIbdObeObcSHRAbgAbfIbgIbfObgOavYauE",
    "auGavAawAaxIawIavIawIavOawOauHauIavIauNGawAaxAawIaxIawOaxOauOavOavYauUNAVIK HbcAbdAbcEbcIbdI",
    "bcObdOayUT HauWAawAavEavIawIavOawOatOauJIBWAY CbbKbbMbbNbcWIbeIbdObeObbPbbSbcHbbTauNauOauY",
    "atPauAavAawIavYauEauIavIauOavOavYauWAawAavEavIawIavOawOawYatQauAavAawIavIauIavIauOavOatR",
    "au-CREE REbbWEauAavAawIavYauEauIavIauOavOauWAawAavEEavIawIavOawOatSauAavAawIavYawISI HAbbE",
    "bbIbbObcObaJIbbUbcUbaMbaSHAbcEbcIbcObdObcWEbaTHbaYIauEauHavAawAawYavEavIawIavOawOawYavWAaxA",
    "awEawIaxIawOaxOaxYauIavIauOavOavUTH-SLAVEY KAHbhEHbhIHbhOHavYauPAavEavIavOauWavAawAavEavIawI",
    "avOawOatTauAavAawIavYauEauHav-CREE THbdAbeAbdEbdIbeIbdObeOavAawAavEavIawIavOawOavWAaxAawEauI",
    "avIauLHAawEawIawOaxOawWEauOavOauTAavEavHawAaxAawEawIawOaxOawWEavIavOauWAawAavEavIawIavOawO",
    "auYAavEavIavOatWAavAavYauEavST-CREE CWAbgAbfEbfIbgIbfObgObdFWAAbdKWAbgAbfEbfIbgIbfObgObdLbeA",
    "bfAbeEbeObfObeWAbgAbfEbfIbgIbfObgObdMbeWAbgAbfEbfIbgIbfObgObdNWAbgAbfEbdPbeWAbgAbfEbfIbgIbfO",
    "bgObdRbeAbeEbeIbeObeWAAbdSHWAbhAbgEbgIbhIbgObhObeWAbgAbfEbfIbgIbfObgObdTHWAAbeWAbgAbfEbfIbgI",
    "bfObgObdWAbfAbeEbeIbfIbeObfObdYbeWAbgAbfEbfIbgIbfObgOaxERN WauIavIauOavOawDS-CREE FINAL TH",
    "beTHbgAbgEbgIbgObgWAbiAbhEEbhIbiIbhObiOatYau-CREE COObaKOObaLOObaMOObaNOObaOObaPOObbWAAbaSOO",
    "baTOObaWbaYOOauAavAawIavYauEauIavIauOavOavYauWAawAavEavIawIavOawOadCELag CHARACTERahTAG",
    "agLATION XafRadDLEaeYadNED FOODadOEacPITULUMadRICORNacR SLIDINGadD FILE BOXafINDEX",
    "ak DIVIDERSadE OFaeTaf INSERTION POINTadIAN LETTER Aap2aoBaoC-18aq39aoDap2aoEap2aoGap2aoIapI",
    "aoKap2aoLapDaq2aoMapBaq2aq3aq4aoNapDapGapNaoOaoPap2aoQaoRapRaoSapHaq2apSapTaq2aoTapTaq2aoU",
    "apUaqUar2ar3arUaoXadONaeUSEL HORSEadP STREAMERaeENTRY SAWadRIAGE RETURNaeOTacSTLEacTad FACE",
    "ai WITH TEARS OF JOYaoWRY SMILEacUCASIAN ALBANIAN CITATION MARKatLETTER ALTbbORbaBETbaCAR",
    "bcYNbbHAbdTbcIbcOYbbYAWbdYbaDATbbYANbbZAYbcYAYbaEBbbYNbaFAMbaGHEYSbbIMbaHEYTbaINYAbbRBbbWN",
    "baJAYNbbHOXbaKARbbIWbaLANbbYITbaMAQbaNOWCbaONbaPENbbIWRbaQARbcYbaRATbaSEYKbbHAbdKbcOYbaTAS",
    "bbIWRbbYAYbaVEYZbaXEYNbaYAYDbbOWDbaZARLbbHAbcILadTION SIGNabCHabEDI SIGNaeLLAacLTIC CROSS",
    "acNT SIGNaeRE LINE SYMBOLagLINE LOW LINEalOVERLINEacRESabGJabHAINSaeRadKMA AU MARKahDANDA",
    "aiIGIT EIGHTanFIVEaoOURanNINEanONEanSEVENaoIXanTHREEaoWOanZEROaiOUBLE DANDAahLETTER AAaoBAA",
    "apHAAaoCAAapHAAaoDAAapDAAaqHAAapHAAaoEaoGAAapHAAaoHAAaoIaoJAAapHAAaoKAAapHAAaoLAAapHAAaoMAA",
    "aoNAAapGAAapNAAapYAAaoPAAapHAAaoRAAaoSAAaoTAAapHAAapTAAaqHAAaoUaoVAAaoWAAaoYAAapYAAahMAAYYAA",
    "ahO MARKahQUESTION MARKahSECTION MARKaiIGN ANUSVARAamCANDRABINDUamVISARGAahVIRAMA",
    "aiOWEL SIGN AatAatIatUasEatIasIatIasOatIasUatUadM CONSONANT SIGN FINAL HbaMbaNGauLAauRAauWA",
    "auYAafDIGIT EIGHTalFIVEamOURalNINEalONEalSEVENamIXalTHREEamWOalZEROafLETTER AanIamBAanBAanHA",
    "amCHAaoHAamDAanDAanHAamEamFINAL CHasGasKasLasNatGasPasRasSSasTasYamGAanHAamHAamIamJAanHAamKA",
    "anHAamLAamMAanUEamNAanGAaoUEanHAaoJAaoUEanUEamOamPAanHAanPAamRAamSAanSAamTAanHAamUamVAamYA",
    "afPUNCTUATION DANDAasOUBLE DANDAarSPIRALarTRIPLE DANDAafVOWEL SIGN AAarIarUaqEIaqIarIaqOarE",
    "aqUarEadRACTER TABULATIONau SETavWITH JUSTIFICATIONalIEaeT WITH DOWNWARDS TREND",
    "alUPWARDS TRENDay AND YEN SIGNacECK MARKafER BOARDan FILLadERING MEGAPHONEaeSE WEDGE",
    "adQUERED FLAGadROKEE LETTER AaqDAarEarIarLAarOarUarVaqEaqGAarEarIarOarUarVaqHAarEarIarNAarO",
    "arUarVaqIaqKAaqLAarEarIarOarUarVaqMAarEarIarOarUarVaqNAasHarEarIarOarUarVaqOaqQUAasEasIasO",
    "asUasVaqSarAarEarIarOarUarVaqTAarEarIarLAasEasIasOasUasVarSAasEasIasOasUasVaqUaqVaqWAarEarI",
    "arOarUarVaqYAarEarIarOarUarVajSMALL LETTER AawDAaxEaxIaxLAaxOaxUaxVawEawGAaxEaxIaxOaxUaxV",
    "awHAaxEaxIaxNAaxOaxUaxVawIawKAawLAaxEaxIaxOaxUaxVawMAaxEaxIaxOaxUaxVawNAayHaxEaxIaxOaxUaxV",
    "awOawQUAayEayIayOayUayVawSaxAaxEaxIaxOaxUaxVawTAaxEaxIaxLAayEayIayOayUayVaxSAayEayIayOayUayV",
    "awUawVawWAaxEaxIaxOaxUaxVawYAaxEaxIaxOaxUaxVaeRIESafY BLOSSOMadSTNUTacI RHOadCKENadLD",
    "afREN CROSSINGadPMUNKadRONacOCOLATE BARadPSTICKSadRASMIAN LETTER ALEPHatYINasBETH",
    "asCURLED WAWasDALETHasGIMELasHEauTHasKAPHasLAMEDHasMEMasNUNasPEasRESHasSAMEKHatHIN",
    "atMALL ALEPHasTAWasWAWasYODHasZAYINalNUMBER FOURasONEav HUNDREDasTENatHREEatWENTYauO",
    "acRISTMAS TREEacURCHabINEMA",
    "acRCLE DIVIDED BY HORIZONTAL BAR AND TOP HALF DIVIDED BY VERTICAL BAR",
    "ahWITH ALL BUT UPPER LEFT QUADRANT BLACKamHORIZONTAL BARamLEFT HALF BLACKanOWER HALF BLACK",
    "amRIGHT HALF BLACKamSMALL CIRCLE TO THE RIGHTanUPERIMPOSED X",
    "amTWO HORIZONTAL STROKES TO THE RIGHTamUPPER HALF BLACKasRIGHT QUADRANT BLACKamVERTICAL FILL",
    "agD ANTICLOCKWISE ARROWav-ROTATED DIVISION SIGNajSTERISK OPERATORaiBOLD XajULLET",
    "aiC WITH OVERLAID BACKSLASHajCajDajROSS FORMEEau WITH FOUR DOTSbaTWO DOTSaoPOMMEEanING LANES",
    "aiDASHajIGIT EIGHTaoFIVEapOURaoNINEaoONEaoSEVENapIXaoTHREEapWOaoZEROakVISION SIGNasLASH",
    "ajOLLAR SIGN WITH OVERLAID BACKSLASHakT OPERATORaiEQUALSaiGREATER-THANaiHANGUL CHIEUCHaw A",
    "aqIEUCau AapHIEUHau AapIEUNGau AavUapKHIEUKHaw AaqIYEOKav AapMIEUMau AapNIEUNau AapPHIEUPH",
    "aw AaqIEUPau AapRIEULau AapSIOSat AapTHIEUTHaw AaqIKEUTav AajEAVY WHITE RIGHTWARDS ARROW",
    "ajORIZONTAL BAR WITH NOTCHajUMAN FIGUREaiIDEOGRAPH ACCEPTatDVANTAGEatLLIANCEatTTENTION",
    "asCENTREatONGRATULATIONauPYauRRECTasEARTHatIGHTatNTERPRISEatXCELLENTasFEMALEatINANCIALauRE",
    "auVEatOURasHAVEatIGHasITEMasKINDERGARTENatOTOasLABORatEFTatOWasMALEatEDICINEauTALatOONasNAME",
    "atIGHTauNEasONEasPRINTasQUESTIONasRELIGIONauSOURCEavTatIGHTasSCHOOLatECRETauVENatIXatOCIETY",
    "atPECIALatTOCKauUDYatUITABLEauNauPERVISEasTENatHREEatWOasWATERatOODajNFORMATION SOURCE",
    "ajTALIC LATIN CAPITAL LETTER CbkRaiKATAKANA AarEarHAasEasIasOasUarIarKAasEasIasOasUarMAasE",
    "asIasOasUarNAasEasIasOasUarOarRAasEasIasOasUarSAasEasIasOasUarTAasEasIasOasUarUarWAasEasIasO",
    "arYAasOasUajOREAN CHARACTER CHAMKOazJUEUIaiLATIN CAPITAL LETTER AbdBbdCbdDbdEbdFbdGbdHbdIbdJ",
    "bdKbdLbdMbdNbdObdPbdQbdRbdSbdTbdUbdVbdWbdXbdYbdZaoSMALL LETTER AbbBbbCbbDbbEbbFbbGbbHbbIbbJ",
    "bbKbbLbbMbbNbbObbPbbQbbRbbSbbTbbUbbVbbWbbXbbYbbZajESS-THANaiMINUS",
    "ajULTIPLICATION SIGN WITH CIRCUMFLEX ACCENTaiNUMBER EIGHTEENauY ON BLACK SQUAREaqLEVEN",
    "apFIFTEENatYau ON BLACK SQUAREaqORTYau EIGHTavFIVEawOURavNINEavON BLACK SQUAREaxEavSEVENawIX",
    "avTHREEawWOarURTEENapNINETEENapSEVENTEENavY ON BLACK SQUAREaqIXTEENatY ON BLACK SQUAREapTEN",
    "as ON BLACK SQUAREaqHIRTEENauYav EIGHTawFIVEaxOURawNINEawON BLACK SQUAREayEawSEVENaxIX",
    "awTHREEaxWOaqWELVEasNTYav EIGHTawFIVEaxOURawNINEawON BLACK SQUAREayEawSEVENaxIXawTHREEaxWO",
    "aiOPEN CENTRE EIGHT POINTED STARaiPARALLELajERPENDICULARajLUSajOSTAL MARKaiREVERSE SOLIDUS",
    "ajING OPERATORaiSQUAREaiTIMESajRIANGLEaq DOWNaiVERTICAL BARaiWHITE BULLETaoSTARajZaiX",
    "aiZERO WITH SLASHaeULATION FUNCTIONafMFLEX ACCENTafS TENTacTYSCAPEaj AT DUSK",
    "abJK COMPATIBILITY IDEOGRAPH-2F800bg1bg2bg3bg4bg5bg6bg7bg8bg9bgAbgBbgCbgDbgEbgFbf10bg1bg2bg3",
    "bg4bg5bg6bg7bg8bg9bgAbgBbgCbgDbgEbgFbf20bg1bg2bg3bg4bg5bg6bg7bg8bg9bgAbgBbgCbgDbgEbgFbf30bg1",
    "bg2bg3bg4bg5bg6bg7bg8bg9bgAbgBbgCbgDbgEbgFbf40bg1bg2bg3bg4bg5bg6bg7bg8bg9bgAbgBbgCbgDbgEbgF",
    "bf50bg1bg2bg3bg4bg5bg6bg7bg8bg9bgAbgBbgCbgDbgEbgFbf60bg1bg2bg3bg4bg5bg6bg7bg8bg9bgAbgBbgCbgD",
    "bgEbgFbf70bg1bg2bg3bg4bg5bg6bg7bg8bg9bgAbgBbgCbgDbgEbgFbf80bg1bg2bg3bg4bg5bg6bg7bg8bg9bgAbgB",
    "bgCbgDbgEbgFbf90bg1bg2bg3bg4bg5bg6bg7bg8bg9bgAbgBbgCbgDbgEbgFbfA0bg1bg2bg3bg4bg5bg6bg7bg8bg9",
    "bgAbgBbgCbgDbgEbgFbfB0bg1bg2bg3bg4bg5bg6bg7bg8bg9bgAbgBbgCbgDbgEbgFbfC0bg1bg2bg3bg4bg5bg6bg7",
    "bg8bg9bgAbgBbgCbgDbgEbgFbfD0bg1bg2bg3bg4bg5bg6bg7bg8bg9bgAbgBbgCbgDbgEbgFbfE0bg1bg2bg3bg4bg5",
    "bg6bg7bg8bg9bgAbgBbgCbgDbgEbgFbfF0bg1bg2bg3bg4bg5bg6bg7bg8bg9bgAbgBbgCbgDbgEbgFbe900bg1bg2",
    "bg3bg4bg5bg6bg7bg8bg9bgAbgBbgCbgDbgEbgFbf10bg1bg2bg3bg4bg5bg6bg7bg8bg9bgAbgBbgCbgDbgEbgFbf20",
    "bg1bg2bg3bg4bg5bg6bg7bg8bg9bgAbgBbgCbgDbgEbgFbf30bg1bg2bg3bg4bg5bg6bg7bg8bg9bgAbgBbgCbgDbgE",
    "bgFbf40bg1bg2bg3bg4bg5bg6bg7bg8bg9bgAbgBbgCbgDbgEbgFbf50bg1bg2bg3bg4bg5bg6bg7bg8bg9bgAbgBbgC",
    "bgDbgEbgFbf60bg1bg2bg3bg4bg5bg6bg7bg8bg9bgAbgBbgCbgDbgEbgFbf70bg1bg2bg3bg4bg5bg6bg7bg8bg9bgA",
    "bgBbgCbgDbgEbgFbf80bg1bg2bg3bg4bg5bg6bg7bg8bg9bgAbgBbgCbgDbgEbgFbf90bg1bg2bg3bg4bg5bg6bg7bg8",
    "bg9bgAbgBbgCbgDbgEbgFbfA0bg1bg2bg3bg4bg5bg6bg7bg8bg9bgAbgBbgCbgDbgEbgFbfB0bg1bg2bg3bg4bg5bg6",
    "bg7bg8bg9bgAbgBbgCbgDbgEbgFbfC0bg1bg2bg3bg4bg5bg6bg7bg8bg9bgAbgBbgCbgDbgEbgFbfD0bg1bg2bg3bg4",
    "bg5bg6bg7bg8bg9bgAbgBbgCbgDbgEbgFbfE0bg1bg2bg3bg4bg5bg6bg7bg8bg9bgAbgBbgCbgDbgEbgFbfF0bg1bg2",
    "bg3bg4bg5bg6bg7bg8bg9bgAbgBbgCbgDbgEbgFbeA00bg1bg2bg3bg4bg5bg6bg7bg8bg9bgAbgBbgCbgDbgEbgF",
    "bf10bg1bg2bg3bg4bg5bg6bg7bg8bg9bgAbgBbgCbgDbcF900bf1bf2bf3bf4bf5bf6bf7bf8bf9bfAbfBbfCbfDbfE",
    "bfFbe10bf1bf2bf3bf4bf5bf6bf7bf8bf9bfAbfBbfCbfDbfEbfFbe20bf1bf2bf3bf4bf5bf6bf7bf8bf9bfAbfBbfC",
    "bfDbfEbfFbe30bf1bf2bf3bf4bf5bf6bf7bf8bf9bfAbfBbfCbfDbfEbfFbe40bf1bf2bf3bf4bf5bf6bf7bf8bf9bfA",
    "bfBbfCbfDbfEbfFbe50bf1bf2bf3bf4bf5bf6bf7bf8bf9bfAbfBbfCbfDbfEbfFbe60bf1bf2bf3bf4bf5bf6bf7bf8",
    "bf9bfAbfBbfCbfDbfEbfFbe70bf1bf2bf3bf4bf5bf6bf7bf8bf9bfAbfBbfCbfDbfEbfFbe80bf1bf2bf3bf4bf5bf6",
    "bf7bf8bf9bfAbfBbfCbfDbfEbfFbe90bf1bf2bf3bf4bf5bf6bf7bf8bf9bfAbfBbfCbfDbfEbfFbeA0bf1bf2bf3bf4",
    "bf5bf6bf7bf8bf9bfAbfBbfCbfDbfEbfFbeB0bf1bf2bf3bf4bf5bf6bf7bf8bf9bfAbfBbfCbfDbfEbfFbeC0bf1bf2",
    "bf3bf4bf5bf6bf7bf8bf9bfAbfBbfCbfDbfEbfFbeD0bf1bf2bf3bf4bf5bf6bf7bf8bf9bfAbfBbfCbfDbfEbfFbeE0",
    "bf1bf2bf3bf4bf5bf6bf7bf8bf9bfAbfBbfCbfDbfEbfFbeF0bf1bf2bf3bf4bf5bf6bf7bf8bf9bfAbfBbfCbfDbfE",
    "bfFbdA00bf1bf2bf3bf4bf5bf6bf7bf8bf9bfAbfBbfCbfDbfEbfFbe10bf1bf2bf3bf4bf5bf6bf7bf8bf9bfAbfB",
    "bfCbfDbfEbfFbe20bf1bf2bf3bf4bf5bf6bf7bf8bf9bfAbfBbfCbfDbfEbfFbe30bf1bf2bf3bf4bf5bf6bf7bf8bf9",
    "bfAbfBbfCbfDbfEbfFbe40bf1bf2bf3bf4bf5bf6bf7bf8bf9bfAbfBbfCbfDbfEbfFbe50bf1bf2bf3bf4bf5bf6bf7",
    "bf8bf9bfAbfBbfCbfDbfEbfFbe60bf1bf2bf3bf4bf5bf6bf7bf8bf9bfAbfBbfCbfDbe70bf1bf2bf3bf4bf5bf6bf7",
    "bf8bf9bfAbfBbfCbfDbfEbfFbe80bf1bf2bf3bf4bf5bf6bf7bf8bf9bfAbfBbfCbfDbfEbfFbe90bf1bf2bf3bf4bf5",
    "bf6bf7bf8bf9bfAbfBbfCbfDbfEbfFbeA0bf1bf2bf3bf4bf5bf6bf7bf8bf9bfAbfBbfCbfDbfEbfFbeB0bf1bf2bf3",
    "bf4bf5bf6bf7bf8bf9bfAbfBbfCbfDbfEbfFbeC0bf1bf2bf3bf4bf5bf6bf7bf8bf9bfAbfBbfCbfDbfEbfFbeD0bf1",
    "bf2bf3bf4bf5bf6bf7bf8bf9aeRADICAL BAMBOOanLUEanOLT OF CLOTHaoNEaoXanRUSH ONEasTWO",
    "amC-SIMPLIFIED BIRDazCARTazDRAGONazEATbaVENazFISHbaLYbaROGazGATEbaOLDazHORSEazLEAFbaONG",
    "azSALTbaEEbaHELLbaILKbaPEECHazTANNED LEATHERbaOOTHbaURTLEazWINDanHOKEanITYaoVILIANanLIFF",
    "aoOTHESanOWamDEATHanIVINATIONanOGamEAT ONEaqTHREEarWOanWEanYEamFIREanOOTamGHOSTanRASS ONE",
    "asTHREEatWOamHANDanEADapRT ONEasTWOanORNamJ-SIMPLIFIED DRAGONazEVENazTOOTHbaURTLEanADE",
    "amKNIFE ONEasTWOamLAME FOURarONEarTHREEasWOanONG ONEarTWOamMEATaoSHanOONaoRTARaoTHER",
    "aoUND ONEasTWOamNET FOURaqONEaqTHREEarWOamOLDamPAW ONEaqTWOanERSONamRAINaoMaoPanEPEATamSEAL",
    "aoCOND ONEatTHREEauWOanHEEPanILKaoMPLIFIED HALF TREE TRUNKayORNaxWALKayHEATaxYELLOW",
    "anMALL ONEasTWOanNAKEaoOUT ONEasTWOanPIRIT ONEatTWOanUNamTABLEanHREADanIGERanURTLEamWALK ONE",
    "arTWOaoTER ONEasTWOanEST ONEarTWOaeSTROKE BXGalDalHamGamPanWGamXWGamZanGanTanWaoGanZaoPaoZ",
    "apGalNalPamDamGamZalQalSamGamPamTamWanGanZamZanWGanZalTamNalWGalXGabLAMSHELL MOBILE PHONE",
    "adPPER BOARDafING HANDS SIGNadSSICAL BUILDINGacEAR SCREEN SYMBOLacINKING BEER MUGSajGLASSES",
    "adPBOARDacOCK FACE EIGHT OCLOCKaq-THIRTYamLEVEN OCLOCKar-THIRTYalFIVE OCLOCKap-THIRTY",
    "amOUR OCLOCKap-THIRTYalNINE OCLOCKap-THIRTYalONE OCLOCKao-THIRTYalSEVEN OCLOCKaq-THIRTY",
    "amIX OCLOCKao-THIRTYalTEN OCLOCKao-THIRTYamHREE OCLOCKaq-THIRTYamWELVE OCLOCKar-THIRTY",
    "anO OCLOCKao-THIRTYafWISE CLOSED CIRCLE ARROWalONTOUR INTEGRAL",
    "akDOWNWARDS AND UPWARDS OPEN CIRCLE ARROWSakGAPPED CIRCLE ARROWakINTEGRALakOPEN CIRCLE ARROW",
    "akRIGHT AND LEFT SEMICIRCLE ARROWSapWARDS AND LEFTWARDS OPEN CIRCLE ARROWS",
    "cb WITH CIRCLED ONE OVERLAYakTOP SEMICIRCLE ARROWalRIANGLE-HEADED OPEN CIRCLE ARROWadSE UP",
    "afD BOOKahINTERSECTION WITH SERIFSahLOCK WITH KEYahMAILBOX WITH LOWERED FLAGauRAISED FLAG",
    "ahSUBSETan OR EQUAL TOajPERSETap OR EQUAL TOahUMBRELLAaiNION WITH SERIFSay AND SMASH PRODUCT",
    "adUDaf WITH LIGHTNINGalRAINalSNOWalTORNADOadWN FACEabOATacCKROACHaeTAIL GLASSadONUTacFFIN",
    "acINacLLISION SYMBOLadONaf EQUALSagSIGNacMBINING ACUTE ACCENTaw BELOWaqTONE MARK",
    "ap-GRAVE-ACUTEaqMACRONalLMOST EQUAL TO ABOVEbaBELOWalNNUITY SYMBOLamTICLOCKWISE ARROW ABOVE",
    "ayRING OVERLAYalSTERISK ABOVEatBELOWakBINDU BELOWalREVEap BELOWap-MACRONamIDGE ABOVEarBELOW",
    "akCANDRABINDUamRONap BELOWalEDILLAalIRCUMFLEX ACCENTbb BELOWalLOCKWISE ARROW ABOVE",
    "auRING OVERLAYalOMMA ABOVEav RIGHTaqBELOWamNJOINING MACRONbb BELOWalYRILLIC DASIA PNEUMATA",
    "atHUNDRED MILLIONS SIGNbbTHOUSANDS SIGNatKAVYKAatLETTER AbaBEbbIG YUSbaCHEbaDEbbJERVbaEFbbL",
    "bbMbbNbbRbbSbc-TEbaFITAbaGHEbaHAbcRD SIGNbaIbbEbbOTIFIED AbjBIG YUSbjEbaKAbaLITTLE YUS",
    "baMONOGRAPH UKbaObbMEGAbaPEbaSHAbcCHAbbOFT SIGNbaTEbbSEbaUbbKRAINIAN IEbaVEbaYATbbERUbbIbbU",
    "baZEbbHEatMILLIONS SIGNatPALATALIZATIONavYEROKauOKRYTIEauSILI PNEUMATAatTEN MILLIONS SIGN",
    "auHOUSAND MILLIONS SIGNauITLOay LEFT HALFazRIGHT HALFatVZMETakDELETION MARK",
    "amVANAGARI DIGIT EIGHTbbFIVEbcOURbbNINEbbONEbbSEVENbcIXbbTHREEbcWObbZEROavLETTER AbcKAbcNA",
    "bcPAbcRAbcUbcVIavSIGN AVAGRAHAalIAERESISat BELOWat-RINGalOT ABOVEat LEFTauRIGHTaoBELOW",
    "at LEFTanTED ACUTE ACCENTarGRAVE ACCENTamUBLE ACUTE ACCENTarBREVEaw BELOWarCIRCUMFLEX ABOVE",
    "arGRAVE ACCENTarINVERTED BREVEbf BELOWarLOW LINEarMACRONax BELOWarOPEN MARK BELOWasVERLINE",
    "arPARENTHESES ABOVEasLUS SIGN ABOVEbbBELOWarRIGHTWARDS ARROW BELOWatNG BELOWarTILDE",
    "aw LEFT HALFaxRIGHT HALFarVERTICAL LINE ABOVEbfBELOWbaSTROKE OVERLAYaqD CIRCUMFLEX ACCENT",
    "amWN TACK BELOWaoWARDS ARROWakENCLOSING CIRCLEba BACKSLASHauDIAMONDauKEYCAPauSCREENavQUARE",
    "auUPWARD POINTING TRIANGLEalQUALS SIGN BELOWakFERMATAalOUR DOTS ABOVEakGLAGOLITIC LETTER AZU",
    "bcBIG YUSbdUKYbcCHRIVIbcDJERVIbdOBRObcFITAbdRITUbcGLAGOLIbcHERUbcIbdNITIAL IZHE",
    "bdOTATED BIG YUSbkSMALL YUSbdZHEbcKAKObcLJUDIJEbcMYSLITEbcNASHIbcONUbcPOKOJIbcRITSIbcSHAbeTA",
    "bdLOVObdMALL YUSbcTSIbdVRIDObcUKUbcVEDEbcYATIbdERIbfUbeSTUbdObdUbcZEMLJAbdHIVETE",
    "alRANTHA DIGIT FIVEazOURayONEaySIXayTHREEazWOayZEROasLETTER AazKAazNAazPAazVIanPHEME JOINER",
    "anVE ACCENTaw BELOWaqTONE MARKap-ACUTE-GRAVEaqMACRONamEEK DIALYTIKA TONOSaqKORONIS",
    "aqMUSICAL PENTASEMEayTETRASEMEazRISEMEaqPERISPOMENIaqYPOGEGRAMMENIakHOMOTHETIC ABOVE",
    "amOK ABOVEamRNakINFINITYamVERTED BREVEay BELOWavIDGE BELOWatDOUBLE ARCH ABOVEbfBELOW",
    "alS BELOWakKATAKANA-HIRAGANA SEMI-VOICED SOUND MARKbcVOICED SOUND MARKamVYKA ABOVE LEFT",
    "axRIGHTakLATIN LETTER SMALL CAPITAL GblLblMblNblRaqSMALL LETTER Abe WITH DIAERESISbeEbeLPHA",
    "beObeVbdBbeETAbdCbe CEDILLAbdDbdEbeSHbeTHbdFbeLATTENED OPEN A ABOVEbdGbdHbdIbeNSULAR DblGblR",
    "blTbdKbdLbe WITH DOUBLE MIDDLE TILDEbeONG SbdMbdNbdObe WITH DIAERESIS",
    "bkLIGHT CENTRALIZATION STROKEbdPbdRbe BELOWbfROTUNDAbdSbeCHWAbdTbeURNED W BELOWbdU",
    "be WITH DIAERESISbkLIGHT CENTRALIZATION STROKEbdVbdWbe BELOWbdXbdZalEFT ANGLE ABOVEavBELOW",
    "aqRROW ABOVEavBELOWauHEAD ABOVEazBELOWapHALF RING ABOVEazBELOWarRPOON ABOVE",
    "apPARENTHESIS ABOVE LEFTbbBELOW LEFTapRIGHT ARROW ABOVEbbBELOWapTACK BELOW",
    "aoWARDS ARROW OVERLAYauHARPOON WITH BARB DOWNWARDSalIGATURE LEFT HALFbc BELOWatRIGHT HALF",
    "bd BELOWanHT CENTRALIZATION STROKE BELOWalONG DOUBLE SOLIDUS OVERLAYapSOLIDUS OVERLAY",
    "aqTROKE OVERLAYapVERTICAL LINE OVERLAYamW LINEakMACRONaq BELOWarLEFT HALFba BELOW",
    "arRIGHT HALFbb BELOWaq-ACUTEarBREVEarGRAVEalINUS SIGN BELOWakNOT TILDE ABOVE",
    "alUMBER SIGN ABOVEakOGONEKaq ABOVEalLD PERMIC LETTER ANbcDOIbcNENOEbcSIIbcZATA",
    "alPEN MARK BELOWalVERLINEakPALATALIZED HOOK BELOWamRENTHESES ABOVEawBELOWawOVERLAY",
    "alLUS SIGN ABOVEauBELOWakRETROFLEX HOOK BELOWamVERSE SOLIDUS OVERLAYarD COMMA ABOVE",
    "alIGHT ARROW ABOVEawBELOWavHEAD ABOVEbbND DOWN ARROWHEAD BELOWbeUP ARROWHEAD BELOWbaBELOW",
    "aqHALF RING ABOVEbaBELOWasRPOON ABOVEaqPARENTHESIS ABOVE RIGHTbcBELOW RIGHTaqTACK BELOW",
    "apWARDS HARPOON WITH BARB DOWNWARDSamNG ABOVEapBELOWapOVERLAYakSEAGULL BELOW",
    "alHORT SOLIDUS OVERLAYarTROKE OVERLAYaqVERTICAL LINE OVERLAYalNAKE BELOWalQUARE BELOW",
    "asRACKETS ABOVEalTRONG CENTRALIZATION STROKE BELOWalUSPENSION MARKakTHREE DOTS ABOVEalILDE",
    "ap BELOWaqLEFT HALF BELOWaqOVERLAYaqRIGHT HALF BELOWalRIPLE ACUTE ACCENTarDOTarUNDERDOT",
    "alURNED COMMA ABOVEakUP TACK ABOVEasBELOWamWARDS ARROW BELOWalR ABOVEalS ABOVE",
    "akVERTICAL LINE ABOVEayBELOWatTILDEakWIDE BRIDGE ABOVEapINVERTED BRIDGE BELOW",
    "amGGLY LINE BELOWakX ABOVEamBELOWal-X BELOWakZIGZAG ABOVEarBELOWadETadMAaeERCIAL AT",
    "alMINUS SIGNadPASSaeLEMENTaeOSITION SYMBOLaeRESSIONacNFETTI BALLaeOUNDED FACEaeUSED FACE",
    "adGRUENT WITH DOT ABOVEadICAL TAPERadJUNCTIONadSTRUCTION SIGNanWORKERadTAINS AS MEMBER",
    "amNORMAL SUBGROUPbb OR EQUAL TOajWITH LONG HORIZONTAL STROKEaoOVERBAR",
    "aoVERTICAL BAR AT END OF HORIZONTAL STROKEaeINUOUS UNDERLINE SYMBOLaeOUR INTEGRALaeROL KNOBS",
    "aiSEQUENCE INTRODUCERadVENIENCE STOREacOKED RICEaeIEafNGacPTIC CAPITAL LETTER AKHMIMIC KHEI",
    "axLFAawBOHAIRIC KHEIawCROSSED SHEIayYPTOGRAMMIC EIEbkGANGIAbkNIbkSHEIawDALDAaxEI",
    "axIALECT-P ALEFbgHORIbgKAPAbgNIawEIEawFEIaxIawGAMMAayNGIAawHATEaxORIawIAUDAawKAPAaxHEIayI",
    "axSIawL-SHAPED HAaxAULAawMIawNIawOaxLD COPTIC AINbhDJAbhESHbhGANGIAbhHAbjTbiEIbiORIbhOOU",
    "bhSHEIbjIMAbaNUBIAN NGIbiYIbhSHIMAbhWAUaxOUawPIaxSIawROawSAMPIaxHEIayIMAaxIMAaxOUawTAU",
    "axHETHEawUAawVIDAawZATAaiOMBINING NI ABOVEarSPIRITUS ASPERbaLENISahEPACT DIGIT EIGHTatFIVE",
    "auOURatNINEatONEatSEVENauIXatTHREEauWOanNUMBER EIGHT HUNDREDazYauFIFTYawVE HUNDREDavORTY",
    "awUR HUNDREDauNINE HUNDREDayTYauONE HUNDREDauSEVEN HUNDREDazTYavIX HUNDREDaxTYauTENavHIRTY",
    "awREE HUNDREDavWENTYawO HUNDREDanTHOUSANDS MARKahFRACTION ONE HALFaiULL STOP",
    "ahMORPHOLOGICAL DIVIDERahOLD NUBIAN DIRECT QUESTION MARKasFULL STOPasINDIRECT QUESTION MARK",
    "asVERSE DIVIDERahSMALL LETTER AKHMIMIC KHEIavLFAauBOHAIRIC KHEIauCROSSED SHEI",
    "awYPTOGRAMMIC EIEbiGANGIAbiNIbiSHEIauDALDAavEIavIALECT-P ALEFbeHORIbeKAPAbeNIauEIEauFEIavI",
    "auGAMMAawNGIAauHATEavORIauIAUDAauKAPAavHEIawIavSIauL-SHAPED HAavAULAauMIauNIauO",
    "avLD COPTIC AINbfDJAbfESHbfGANGIAbfHAbhTbgEIbgORIbfOOUbfSHEIbhIMAayNUBIAN NGIbgYIbfSHIMA",
    "bfWAUavOUauPIavSIauROauSAMPIavHEIawIMAavIMAavOUauTAUavHETHEauUAauVIDAauZATAaiYMBOL KAI",
    "apHI ROaoMI ROaoPI ROaoSHIMA SIMAapTAUROSaoTAU ROadYLEFT SYMBOLaeRIGHT SIGNacRAL",
    "adNISH VERSE DIVIDERadRESPONDS TOacUCH AND LAMPadNTERBOREahSINKafING ROD TENS DIGIT EIGHT",
    "ayFIVEazOURayNINEayONEaySEVENazIXayTHREEazWOanUNIT DIGIT EIGHTayFIVEazOURayNINEayONEaySEVEN",
    "azIXayTHREEazWOadPLE WITH HEARTacWad FACEabRacABacEDIT CARDadSCENT MOONacICKET",
    "ah BAT AND BALLacOCODILEadISSANTadSS MARKagOF JERUSALEMajLORRAINEagPATTY WITH LEFT CROSSBAR",
    "arRIGHT CROSSBARahOMMEEam WITH HALF-CIRCLE BELOWafED FLAGS",
    "aiNEGATIVE SQUARED LATIN CAPITAL LETTER PaiSWORDSafING LANESadWNacUTCHadZEIRO SIGN",
    "acYING CAT FACEahFACEadSTAL BALLabSIabUBE ROOTacCUMBERacNEIFORM NUMERIC SIGN EIGHT ASHbdDISH",
    "bdGESH2bdSHAR2bdUbe VARIANT FORMbdVARIANT FORM USSUbu3ayLAMITE FIFTYbgORTYbfONE THIRD",
    "bfTWO THIRDSaxFIVE ASHbf TENUbcBAN2bg VARIANT FORMbdURUbcDISHbcGESH2bgUbcSHAR2bgU",
    "bdIXTHS DISHbcUbd VARIANT FORMayOUR ASHbf TENUbcBAN2bg VARIANT FORMbdURUbcDISHbcGESH2bgU",
    "bcSHAR2bgUbcUbd VARIANT FORMbcVARIANT FORM LIMMUbu AbvBbu4axNIGIDAESHbdMINazNE ASHbcDISH",
    "bcGESH2bcSHAR2bcUbd VARIANT FORMbcVARIANT FORM ILIMMUbv Abv3bv4axOLD ASSYRIAN ONE QUARTER",
    "boSIXTHayNE BAN2bcURUbbEIGHTH ASHbcSHE3bbGESH2bfUbbHALF GURbbQUARTER ASHbjGURbbSHARU",
    "bbTHIRD DISHbhVARIANT FORM AaxSEVEN ASHbdDISHbdGESH2bdSHAR2bdUbe VARIANT FORM",
    "bdVARIANT FORM IMIN AbvBbu3ayHAR2 TIMES GAL PLUS DISHbsMINayIX ASHbe TENUbbDISHbbGESH2",
    "bbSHAR2bbUbc VARIANT FORMbbVARIANT FORM ASH9axTHREE ASHbg TENUbdBAN2beURUbh VARIANT FORM",
    "bdDISHbdGESH2bhUbdSHAR2bi VARIANT FORMbhUbi VARIANT FORMbdVARIANT FORM ESH16bt21ayWO ASH",
    "be TENUbbBAN2bcURUbbESHE3bbGESH2bfUbbSHAR2bfUbbTHIRDS DISHbiVARIANT FORM A",
    "akPUNCTUATION SIGN DIAGONAL COLONbkQUADCOLONbkTRICOLONbbOLD ASSYRIAN WORD DIVIDER",
    "bbVERTICAL COLONakSIGN Aaq TIMES AaxBADaxGAN2 TENUaxHAaxIGIaxLAGAR GUNUaxMUSHaxSAGaq2aqB",
    "ar GUNUasTIMES ASH2ayDUN3 GUNUayGALbaN2 TENUayHAayIGI GUNUazMINayLAGABayNUNbb TENUaySHESH",
    "baU2ayU PLUS U PLUS Uar2as TIMES AazBALAGazGAN2 TENUazME PLUS ENazSHA3azTAK4aqDar TIMES ESH2",
    "aqKar TIMES ERIN2aySHITA PLUS GISHaqLar TIMES ALayDIM2ayGISHayHAayKAD3azIaySHEayUSHarANarEPH",
    "aqMARat TIMES KUGbaSHEaqNar OVER ANasPLUS NAGA OPPOSING AN PLUS NAGAbcSQUAREDasTHREE TIMES",
    "arSHEaqPINaqRADat TIMES KURarKABaqSAL2arHas KABA TENUatOVER ASH OVER ASH",
    "bk CROSSING ASH OVER ASH OVER ASHbcTUG2 OVER TUG2 TUG2 OVER TUG2 PAPatZIDA TENUas2asGABapBA",
    "arDas TIMES DISH TENUarG3arHAR2av TIMES AB2bcNIbcZAarLas OVER BALasAGarRasA2aqIar TIMES A",
    "ayGARayIGI GUNUaqUar CROSSING BUasOVER BU ABbaTIMES NA2baUNarLUGau OVER BULUGarRas2apDA",
    "ar TIMES TAK4arGas KISIM5 TIMES A PLUS MASHbhMARbgBALAGbhIbgGAbi PLUS MASHbhIbiR2bhUDbgHA",
    "bgIRbi PLUS LUbgKAKbgLAbhUbi PLUS MASH2biMbgNEbgPAP PLUS PAPbgSIbgTAK4bgU2 PLUS GIR2boMASH",
    "bhSHatTIMES KURas3arMarRasA3at4aqIarBarMas TIMES IGIazSHEazU U Uas2at TIMES UDarN",
    "as KASKAL U GUNU DISHarSHat PLUS SHUaqUar GUNUasOVER DUasSHESHIGarBas TIMES ESH2azSHEas2arG",
    "as TIMES ANSHEbaSHbc AT LEFTazDINbaUNazERIN2azGAbaIbbR2 GUNUbbSHazHAbaIazIGI GUNUazKASKAL",
    "baURbbSHU2bf PLUS KASKALazLAK-020bbMbc TIMES KURbaUH PLUS GISHazMASHbaESbaIazNIazPIazSHE",
    "baI GUNUasUDarHarNas3at GUNUay GUNUas4arR2apEaq OVER E NUN OVER NUNarTIMES PAPaq2",
    "ar TIMES A PLUS HA PLUS DAayGARayKURayMIayPAPaySALazHEayUaqDINaqGIRaqLaqNar CROSSING EN",
    "asOPPOSING ENasSQUAREDasTIMES GAN2bc TENUayMEaqRENarIN2au XaqSH2at CROSSING ESH2aqZEN",
    "at SHESHIG TIMES ASHbiHIbiIGI GUNUbiLAbkLbiMEbkSbiSUauTIMES Abb PLUS LALbk TIMES LALbbNbaBAD",
    "baDUN3 GUNUbj GUNUbaGUDbaHAbc GUNUbaIGI GUNUbaKASKALbg SQUAREDbbU3baLAbcL TIMES LALbbIbbU",
    "baSHEbbUbaU2bbDapGAar GUNUar2as OVER GA2atTIMES A PLUS DA PLUS HAbgHAbgIGIbaB2 TENU PLUS TAB",
    "baNbb PLUS KAK PLUS AbaSHbc2bd PLUS GALazBADbbHAR2bbR PLUS RAbaURbc PLUS RAazDAbaIbbM GUNU",
    "bdTIMES SHEbaUBbbG TIMES IGI GUNUbjKASKALazELbb PLUS LAbaNbb TIMES GAN2 TENUbaRENazGA",
    "bbN2 TENUbbRbc PLUS DIbiNEbaIbb4bc PLUS AbbR2 PLUS SUazHA PLUS AbhLU PLUS ESH2bbLbc PLUS LA",
    "baI PLUS LIbaUB2azIGI GUNUbaSH PLUS HU PLUS ASHazKAKbbSKALbaIDbc PLUS LALbaU3 PLUS AN",
    "bbSHU2 PLUS KASKALazLAbbMbc TIMES KURbaUHazME PLUS ENbaIbaUSHazNEbb PLUS E2bhGIbaUN",
    "bc OVER NUNazPAazSALbbRbaHEbc PLUS TURbbIDbcMbaUMazTAK4azUbaDbb PLUS DUazZIZ2arBA",
    "at CROSSING GABAauROTATED NINETY DEGREESarDas OVER GAD GAR OVER GARarL",
    "as GAD OVER GAD GAR OVER GARasAMarMarNas2at CROSSING GAN2auOVER GAN2auTENUarRas3arSHANaqE22",
    "arSHTINaw TIMES KURbdUaqIar CROSSING GIasTIMES EayUar4as CROSSING GI4atOVER GI4arDIMarGarR2",
    "at GUNUas3at TIMES A PLUS IGIbaGAN2 TENUbaIGIbaLU PLUS IGIbaPAarSALasHat CROSSING GISHauTENU",
    "avIMES BADbaGISH CROSSING GISHbaTAK4aqUar CROSSING GUar2as GUNUatTIMES IGI GUNUazKAK",
    "bc TIMES IGI GUNUazNUNazSAL PLUS TUG2arDas OVER GUD LUGALatPLUS GISH TIMES TAK4",
    "atTIMES A PLUS KURazKURarLarMas TIMES SHEarRas7asUNatSHapHAar GUNUasTENUaw GUNUarLaqI",
    "ar TIMES ASHbb OVER HI TIMES ASHbb2ayBADayDISHayGADayKINayNUNaySHEayUaqUarB2at TIMES ANbaHAL",
    "baKASKALbaLISHbaUDarL2arSHapIaq AaqBaqDIMat OVER IDIM BURbeSQUAREDaqGarIas DIBatGUNU",
    "atOVER IGI SHIR OVER SHIR UD OVER UDatRIaqLar TIMES GAN2 TENUar2aqMar CROSSING IM",
    "asOPPOSING IMasSQUAREDasTIMES TAK4arINaqNaqRaqSHapKAar TIMES AazDba PLUS KU3azNSHEazSH2bb3",
    "ayBADbaLAGbaRazIazUayERIN2azSH2ayGAbaLbaN2 TENUbaRbb PLUS SHA3 PLUS AazIbaR2baSH",
    "bc CROSSING GISHbdPLUS SARazUbaDbaR7ayHI TIMES ASH2ayIGIazMayKAbaKazIbaDayLIazUbaMayME",
    "ba PLUS DUbgGIbgTEazIba PLUS NUNUZayNEazUNayPAazIayRUaySAbaRazHAbaEbaIDbaUbbLazIGazUHURayTAR",
    "azUayUaz U Uaz2azDazMUM TIMES PAazRba2azSHayZIar2as CROSSING KA2arBarD2as3as4as5at OVER KAD5",
    "arKas TIMES IGI GUNUarLas CROSSING KALatTIMES BADarM2as4arP ELAMITEarSKAL",
    "av LAGAB TIMES U OVER LAGAB TIMES UawOVER KASKAL LAGAB TIMES U OVER LAGAB TIMES UaqESH2aqI",
    "ar TIMES BADayUazDarDarNarSALasHasIM5av OVER KISIM5aqU",
    "ar OVER HI TIMES ASH2 KU OVER HI TIMES ASH2ar3ar4as VARIANT FORMar7arLas GUNUarNarR",
    "as OPPOSING KURarSHU2aqWU318apLAarGABau SQUAREDavTIMES Abc PLUS DA PLUS HAbiGARbiLALbcLbcN",
    "bcSH ZIDA TENUbbBADbcIbbDARbbENbbGAbdRbcIbcUDbe PLUS GUDbbHAbdLbcI TIMES NUNbbIGI GUNUbcM",
    "bd PLUS HAbjLUbbKIbdNbcU3bdLbe PLUS HI PLUS AbbLAGABbcISHbcUbdLbbMEbd PLUS ENbcUSHbbNE",
    "bbSHE PLUS SUMbdITA PLUS GISH PLUS ERIN2brTENUbdU2bf PLUS SHU2bcUMbbTAGbdK4",
    "bcE PLUS A PLUS SU PLUS NAbbUbc PLUS AbiU PLUS Ubc2 PLUS ASHbcDbcSHbbZU OVER ZUatRau GUNU",
    "az OVER LAGAR GUNU SHEavTIMES SHEbe PLUS SUMarHSHUarK-003au21av5au30au50av1au62",
    "au79 OVER LAK-079 GUNUau80av1 OVER LAK-081au92at130au42at210av9au20av5av8au38au65av6at343av7",
    "av8au83av4au90at441av9aw TIMES GUbdIGIbdPAP PLUS LU3bmPAP PLUS LU3bdU2 PLUS BAau50av7au70",
    "au83au90av2av3av5at550at608au17aw TIMES ASHbdBADbdDUN3 GUNU GUNUbdKU3bdLAbdTARbeEbdU2beD",
    "beRUDAau36au48aw TIMES DUBbdGAbdIGIbg GUNUbdNIbdPAP PLUS PAP PLUS LU3bdSHESH PLUS KIbdUD",
    "beRUDAat724au49arLas TIMES LALarMas TIMES KURbc PLUS RUaqIarLarMMU2arSHaqUar TIMES BADar2",
    "as CROSSING LU2atGUNU TIMES ASHatOPPOSING LU2atSHESHIGba TIMES BADauQUAREDatTENUauIMES AL",
    "azBADazDISHazESH2bd PLUS LALbeTENUazGAN2 TENUazHALbaI TIMES BADazIMazKAD2bc3bd PLUS ASHbaI",
    "azLA PLUS ASHbbGABazME PLUS ENazNEbaUazPAPbc PLUS PAP PLUS LU3azSHUbaI PLUS ASHbbK2 PLUS BU",
    "azTAK4baUG2ar3arGALau OPPOSING LUGALawVER LUGALavSHESHIGarHarLarMas OVER LUMbb GAR OVER GAR",
    "apMAar GUNUasTIMES TAK4ar2arHarRarSHat2aqEarSasHaqIar PLUS ZA7arNaqUar OVER MUarGas GUNU",
    "arNSUBarRGU2arSHat CROSSING MUSHauOVER MUSHbd TIMES A PLUS NAbkGAbkKAKauTIMES AbaKURbaZAat3",
    "au GUNUavTIMES Abc PLUS DIbbDIbbZAapNAar2ar4arGAat INVERTEDauOPPOSING NAGAauTIMES SHU TENU",
    "atRarMas NUTILLUas2aqEar SHESHIGasTIMES AayUDaqIar TIMES Ear2arMas TIMES GAN2 TENU",
    "bbR PLUS GAN2 TENUarNas9asDA2av TIMES ANbdSHbf PLUS ASHbcBALbcDIM GUNUbcGIbeSHbdUDbeLbcHI",
    "bcKESH2bcLAK-050bcMASHbdE PLUS GAN2 TENUbcNEbdUNbcPAP PLUS PAPbcSHEbf PLUS A ANbmSH",
    "bo PLUS ASHbcUbd PLUS Ubd2 PLUS ASHbdRUDAbdSHarSAGaqUar11at OVER NU11 BUR OVER BUR",
    "auROTATED NINETY DEGREESauTENUarNas CROSSING NUNbf LAGAR OVER LAGARatLAGAR TIMES GARbfMASH",
    "bfSALbi OVER NUN LAGAR TIMES SALbfUSHatOVER NUNatTENUasUZau AB2 TIMES ASHGABbfBIbfDUGbfGUD",
    "bfIGI GUNUbfKAD3bfLAbfNEbfSILA3bfU2avKISIM5 TIMES BIbk UapPAarDarNarPaqESH2au ASTERISKaqI",
    "ar CROSSING PIasTIMES AazBayBIazUayEayIazBayUaz2arR2asIGau OPPOSING PIRIGavTIMES KALbbUDbbZA",
    "apRAarBaqIaqUapSAarGas GUNUax TIMES HAatNUTILLUatOVER SAGatTIMES AazDUbbBazENazHAazIGI GUNU",
    "azKAKbaURazLUMazMIazNUNazSALbaHE AT LEFTbbIDazTABbbK4azU2baBbaMbaRbaSHarLas LAGAB TIMES ASH2",
    "arNGA2arRaqHAas3at TIMES AbaBADbaGISHbaNEbaSHU2baTURbaUbb PLUS Aas6at TENUasB6asR2arEas HU",
    "atOVER SHEbb GAD OVER GAD GAR OVER GARbcTAB OVER TAB GAR OVER GARatPLUS HUB2ayNAM2aySARasG9",
    "asNasSHau2auLAMarIDat TIMES AbaIMasMat TIMES AbaBALbbULUGbaDINbaGARbaIGIbd GUNUbaKUSHU2baLUL",
    "baMUGbaSALasNIGasRat OVER SHIR BUR OVER BURauTENUasTAarUas OVER INVERTED SHUas2",
    "at PLUS DUG TIMES NIazE2 TIMES ANasBURaqIar GUNUasTIMES TAK4arGas4at OVER SIG4 SHU2arK2arLA3",
    "aqUar OVER SUarDas2arHURarMasASHarRas9apTAar ASTERISKasGUNUasTIMES HIayMIarB",
    "as OVER TAB NI OVER NI DISH OVER DISHatSQUAREDarGas TIMES BIazGUDazSHEbbUazTUG2azUDarK4",
    "at PLUS SAGarRaqEar GUNUaqIar TENUar2arLarRas OVER TIRbb GAD OVER GAD GAR OVER GAR",
    "atTIMES TAK4aqUarG2arKarMas TIMES GAN2 TENUazTHREE DISHarRas OVER TUR ZA OVER ZAapUaq GUD",
    "arOVER U PA OVER PA GAR OVER GARaySUR OVER SURayU REVERSED OVER U REVERSEDarUas Uaq2aqBaqD",
    "ar GUNUasKUSHU2asSHESHIGaz TIMES BADasTIMES BADayMIayU PLUS U PLUS Ubn GUNUarUGaqM",
    "ar TIMES LAGABayMEba PLUS DAaySHA3ayUarBINarUMat TIMES KASKALbaPAaqNar GUNUaqRar CROSSING UR",
    "asSHESHIGar2as INVERTEDatTIMES A PLUS HAbgNAbaLazHAazNUNazU2bb PLUS ASHbhBIbaDar4arIas3arU",
    "as TIMES AbaSHGABazBARazDARA3baUNazGAbbLbbN2 TENUbbRbaUazHAazIGIbaMbaSHazKIazLAK-668baU3bbM",
    "azMINazPAazSHEbaIG4azTUazU PLUS GUDbaDbaRUDAasDAau TIMES UaqSHas TIMES AazKUbbRazTAK4as2",
    "asUMXasXaqTUKIaqZ3as TIMES KASKALarUapZAar SQUARED TIMES KURasTENUar7arGarMXaqE2aqI",
    "ar OVER ZIar3arBas KABA TENUarGarZ2aqUar OVER ZU PLUS SARar5as TIMES AazTHREE DISH TENUarBUR",
    "arMacP ON BLACK SQUAREaeWITH STRAWadCAKEadIDOacRLING STONEaeY BRACKET EXTENSIONagLOGICAL AND",
    "aoORaiOPadRENCY EXCHANGEajSIGNaeY AND RICEadVED STEM PARAGRAPH SIGN ORNAMENTacSTARDaeOMS",
    "acT OF MEATabYCLONEacLINDRICITYacPRIOT SYLLABLE AarEarIarJAasOarKAasEasIasOasUarLAasEasIasO",
    "asUarMAasEasIasOasUarNAasEasIasOasUarOarPAasEasIasOasUarRAasEasIasOasUarSAasEasIasOasUarTA",
    "asEasIasOasUarUarWAasEasIasOarXAasEarZAasOaeO-MINOAN SIGN CM001aw2aw4aw5aw6aw7aw8aw9av10aw1",
    "aw2axBaw3aw5aw7aw9av21aw3aw4aw5aw6aw7aw8aw9av30aw3aw4aw5aw6aw7aw8aw9av40aw1aw4aw6aw7aw9av50",
    "aw1aw2aw3aw4aw5aw6aw8aw9av60aw1aw2aw3aw4aw6aw7aw8aw9av70aw1aw2aw3aw4aw5axBaw6aw8aw9av80aw1",
    "aw2aw3aw4aw5aw6aw7aw8aw9av90aw1aw2aw4aw5aw6aw7aw8aw9au100aw1aw2aw3aw4aw5aw7aw8aw9av10aw2aw4",
    "au301aw2acRILLIC CAPITAL LETTER Aaz WITH BREVEbfDIAERESISazBKHASIAN CHEbl WITH DESCENDER",
    "biDZEbiHAazLEUT KAayBARRED Obg WITH DIAERESISbaSHKIR KAazEazIG YUSbaNOCULAR OazLENDED YUS",
    "azROAD OMEGAazYELORUSSIAN-UKRAINIAN IayCCHEazHEbb WITH DESCENDERbiIAERESISbhVERTICAL STROKE",
    "azLOSED LITTLE YUSazROSSED OayDCHEazEazJEbbRVazOUBLE MONOCULAR ObfOazWEazZEbbLObaHEbaWEbaZE",
    "bbHEayEaz WITH DIAERESISazFazLba WITH DESCENDERbgHOOKbgMIDDLE HOOKbgTAILazMba WITH TAILazN",
    "ba WITH DESCENDERbgHOOKbgLEFT HOOKbgMIDDLE HOOKbgTAILazRba WITH TICKazSba WITH DESCENDER",
    "ayFITAayGHEbb WITH DESCENDERbhMIDDLE HOOKbhSTROKEbn AND HOOKbhUPTURNazJEayHA",
    "ba WITH DESCENDERbgHOOKbgSTROKEbaRD SIGNazWEayIaz WITH DIAERESISbfGRAVEbfMACRONazE",
    "ba WITH BREVEbgGRAVEazObaTAbbIFIED AbhBIG YUSbhCLOSED LITTLE YUSbhEbhLITTLE YUSbhYATazZHITSA",
    "bf WITH DOUBLE GRAVE ACCENTayJEayKAba WITH DESCENDERbgHOOKbgSTROKEbgVERTICAL STROKE",
    "azHAKASSIAN CHEazJEazOMI DEbeJEbeZJEbdLJEbdNJEbdSJEbdTJEbdZJEbaPPAazSIayLHAazITTLE YUSazJE",
    "ayMONOCULAR ObcGRAPH UKayNEUTRAL YERazJEayOaz WITH DIAERESISazMEGAbd WITH TITLOazTayPE",
    "ba WITH DESCENDERbgMIDDLE HOOKazSIayQAayREVERSED DZEbhTSEbhYUbhZEazHAazOUND OMEGAaySCHWA",
    "bd WITH DIAERESISazEMISOFT SIGNazHAbaCHAbaHAbc WITH DESCENDERbaORT Ibf WITH TAILbeUbaWE",
    "azOFT DEbdELbeMbdSIGNazTRAIGHT Ubi WITH STROKEayTCHEazEba WITH DESCENDERbgMIDDLE HOOKazSE",
    "baHEbaSEbaWEazWEayUaz WITH DIAERESISbgOUBLE ACUTEbfMACRONazKbaRAINIAN IEayVEayWEayYAbaEbaT",
    "azERUbc WITH BACK YERbiDIAERESISazIazNazUayZEba WITH DESCENDERbhIAERESISbaMLYAazHE",
    "bb WITH BREVEbhDESCENDERbiIAERESISbaWEasIGATURE A IEbaEN GHEbaTE TSEajKAVYKA",
    "ajLETTER MULTIOCULAR OaqPALOCHKAaqSMALL CAPITAL ELajPAYEROKajSMALL LETTER Aax WITH BREVE",
    "bdDIAERESISaxBKHASIAN CHEbj WITH DESCENDERbgDZEbgHAaxLEUT KAawBARRED Obe WITH DIAERESIS",
    "aySHKIR KAaxEaxIG YUSayNOCULAR OaxLENDED YUSaxROAD OMEGAaxYELORUSSIAN-UKRAINIAN IawCCHEaxHE",
    "az WITH DESCENDERbgIAERESISbfVERTICAL STROKEaxLOSED LITTLE YUSaxROSSED OawDCHEaxEaxJEazRV",
    "axOUBLE MONOCULAR ObdOaxWEaxZEazLOayHEayWEayZEazHEawEax WITH DIAERESISaxFaxL",
    "ay WITH DESCENDERbeHOOKbeMIDDLE HOOKbeTAILaxMay WITH TAILaxNay WITH DESCENDERbeHOOK",
    "beLEFT HOOKbeMIDDLE HOOKbeTAILaxRay WITH TICKaxSay WITH DESCENDERawFITAawGHE",
    "az WITH DESCENDERbfMIDDLE HOOKbfSTROKEbl AND HOOKbfUPTURNaxJEawHAay WITH DESCENDERbeHOOK",
    "beSTROKEayRD SIGNaxWEawIax WITH DIAERESISbdGRAVEbdMACRONaxEay WITH BREVEbeGRAVEaxOayTA",
    "azIFIED AbfBIG YUSbfCLOSED LITTLE YUSbfEbfLITTLE YUSbfYATaxZHITSAbd WITH DOUBLE GRAVE ACCENT",
    "awJEawKAay WITH DESCENDERbeHOOKbeSTROKEbeVERTICAL STROKEaxHAKASSIAN CHEaxJEaxOMI DEbcJEbcZJE",
    "bbLJEbbNJEbbSJEbbTJEbbZJEayPPAaxSIawLHAaxITTLE YUSaxJEaxONG-LEGGED DEawMONOCULAR ObaGRAPH UK",
    "awNARROW OaxEUTRAL YERaxJEawOax WITH DIAERESISaxMEGAbb WITH TITLOaxTawPALOCHKAaxE",
    "ay WITH DESCENDERbeMIDDLE HOOKaxSIawQAawREVERSED DZEbfTSEbfYUbfZEaxHAaxOUND OMEGAbbED VE",
    "awSCHWAbb WITH DIAERESISaxEMISOFT SIGNaxHAayCHAayHAba WITH DESCENDERayORT Ibd WITH TAILbcU",
    "ayWEaxOFT DEbbELbcMbbSIGNaxTRAIGHT Ubg WITH STROKEawTALL HARD SIGNbbTEbbYATaxCHEaxE",
    "ay WITH DESCENDERbeMIDDLE HOOKaxHREE-LEGGED TEaxSEayHEaySEayWEaxWEawUax WITH DIAERESIS",
    "beOUBLE ACUTEbdMACRONaxKayRAINIAN IEaxNBLENDED UKawVEawWEaxIDE ESawYAayEayTaxERU",
    "ba WITH BACK YERbgDIAERESISaxIaxNaxUawZEay WITH DESCENDERbfIAERESISayMLYAaxHEaz WITH BREVE",
    "bfDESCENDERbgIAERESISayWEaqIGATURE A IEayEN GHEayTE TSEajTHOUSANDS SIGN"]

/-- The names that begin with D. -/
def listD : List String :=
  ["aaDAGGERag KNIFEahWITH LEFT GUARDamRIGHT GUARDacLET SYMBOLacNCERadGOacRK SHADEagUNGLASSES",
    "acSH SYMBOLafWITH LEFT UPTURNaeED LOW LINEahOVERLINEahTRIANGLE-HEADED RIGHTWARDS ARROW",
    "acTA LINK ESCAPEabC1ac2ac3ac4acSabEAF PERSONacCIDUOUS TREEaeMAL EXPONENT SYMBOL",
    "aiSEPARATOR KEY SYMBOLadREASE FONT SIZE SYMBOLacERacGREE CELSIUSahFAHRENHEITahSIGNacLadETE",
    "adIVERY TRUCKadTA EQUAL TOacNTISTRY SYMBOL LIGHT DOWN AND HORIZONTALbq WITH CIRCLEbwTRIANGLE",
    "bwWAVEaxUP AND HORIZONTALbo WITH CIRCLEbuTRIANGLEbuWAVEaxVERTICAL AND BOTTOM LEFTbrRIGHT",
    "bkTOP LEFTboRIGHTbkWAVEbgWITH CIRCLEblTRIANGLEacPARTMENT STOREacRELICT HOUSE BUILDING",
    "acSCENDING NODEadERET CAPITAL LETTER AYaxBEEaxCHEEaxDEEaxEFayLayMayNazGayRaySazHayTHayWaxGAY",
    "axHaxJEEaxKAYaxLONG AbdHbcEbcIbcObdOaxOIayWaxPEEaxSHORT AbeHbdEbdIbdObeOaxTEEayHEEaxVEEaxWU",
    "axYEEaxZEEayHEEaiSMALL LETTER AYavBEEavCHEEavDEEavEFawLawMawNaxGawRawSaxHawTHawWavGAYavH",
    "avJEEavKAYavLONG AbbHbaEbaIbaObbOavOIawWavPEEavSHORT AbcHbbEbbIbbObcOavTEEawHEEavVEEavWU",
    "avYEEavZEEawHEEafTag ISLANDadKTOP COMPUTERaiWINDOWacVANAGARI ABBREVIATION SIGNamCUTE ACCENT",
    "alCARETalDANDAamIGIT EIGHTarFIVEasOURarNINEarONEarSEVENasIXarTHREEasWOarZEROamOUBLE DANDA",
    "alGAP FILLERamRAVE ACCENTalHEADSTROKEalJAIN OMalLETTER AatAatIatUatWatYasBAatBAatHAasCA",
    "auNDRA AazEazOatHAasDAatDAauDAavHAauHAatHAasEasFAasGAatGAatHAauHAatLOTTAL STOPasHAatEAVY YA",
    "asIatIasJAatHAatJAasKAatHAauHAasLAatLAauLAasMAauRWARI DDAasNAatGAatNAauNAatYAasOatEatOEasPA",
    "atHAasQAasRAatHAatRAasSAatHAauORT AayEayOatSAasTAatHAatTAauHAasUatEatUauEasVAatOCALIC LbbL",
    "baRbbRasYAatYAasZAatHAalOMalSIGN ANUSVARAarVAGRAHAaqCANDRABINDUbb AVAGRAHAbcTHREEbdWO",
    "bcVIRAMAaqDOUBLE CANDRABINDU VIRAMAaqHIGH SPACING DOTaqINVERTED CANDRABINDUaqNUKTAaqPUSHPIKA",
    "aqSIDDHAMarPACING CANDRABINDUaqVIRAMAasSARGAamTRESS SIGN ANUDATTAaxUDATTAalVOWEL SIGN AAaxI",
    "axUaxWaxYawCANDRA EbdLONG EbdOawEawIaxIawOaxEaxOEawPRISHTHAMATRA EawSHORT EbcOawUaxEaxUayE",
    "awVOCALIC LbfLbeRbfRadICE CONTROL FOURapONEapSTRINGapTHREEaqWOabIAERESISadMETER SIGN",
    "aeOND OPERATORaiSHAPE WITH A DOT INSIDEaiTARGETaiWITH BOTTOM HALF BLACKanLEFT HALF BLACK",
    "anRIGHT HALF BLACKanTOP HALF BLACKacE FACE-1aj2aj3aj4aj5aj6adSEL LOCOMOTIVE",
    "acFFERENCE BETWEENacGIT EIGHTal COMMAamFULL STOPagFIVEak COMMAalFULL STOPahOURak COMMA",
    "alFULL STOPagNINEak COMMAalFULL STOPagONEaj COMMAakFULL STOPagSEVENal COMMAamFULL STOPahIX",
    "aj COMMAakFULL STOPagTHREEal COMMAamFULL STOPahWOaj COMMAakFULL STOPagZEROak COMMA",
    "alFULL STOPadRAM FOR EARTHaqLY HEAVENauUMANalGREATER YANGauINalHEAVENLY EARTHamUMAN EARTH",
    "alLESSER YANGatINacMENSION ORIGINacNGBAT CIRCLED SANS-SERIF DIGIT EIGHTbhFIVEbiOURbhNINE",
    "bhONEbhSEVENbiIXbhTHREEbiWObhZERObbNUMBER TENaiNEGATIVE CIRCLED DIGIT EIGHTbfFIVEbgOURbfNINE",
    "bfONEbfSEVENbgIXbfTHREEbgWOazNUMBER TENazSANS-SERIF DIGIT EIGHTbqFIVEbrOURbqNINEbqONEbqSEVEN",
    "brIXbqTHREEbrWObqZERObkNUMBER TENacRECT CURRENT SYMBOL FORM TWOahHITacSABLED CAR",
    "aePPOINTED BUT RELIEVED FACEanFACEadCONTINUOUS UNDERLINE SYMBOLadGUISED FACEacTTO MARK",
    "acVES AKURU DIGIT EIGHTasFIVEatOURasNINEasONEasSEVENatIXasTHREEatWOasZEROanOUBLE DANDA",
    "amEND OF TEXT MARKamGAP FILLERamINITIAL RAamLETTER AauAatBAauHAatCAauHAatDAauDAavHAauHAatE",
    "atGAauHAatHAatIauIatJAatKAauHAatLAauLAatMAatNAauGAauNAauYAatOatPAauHAatRAatSAauHAauSAatTA",
    "auHAauTAatUauUatVAatYAauYAatZAamMEDIAL RAatYAamPREFIXED NASAL SIGNamSIGN ANUSVARA",
    "arCANDRABINDUarHALANTAarNUKTAamVIRAMAanOWEL SIGN AAayIaxEaxIayIaxOaxUayUadIDESaeNG MASK",
    "aeSION SIGNakLASHajTIMESadORCE SYMBOLacYA LAMPacZZY FACEagSYMBOLabLEabNA DOUBLE HELIX",
    "abO NOT LITTER SYMBOLacCUMENTai WITH PICTUREaoTEXTas AND PICTUREacDO",
    "acES NOT CONTAIN AS MEMBERauNORMAL SUBGROUPbj OR EQUALajDIVIDE",
    "ap WITH REVERSED NEGATION SLASHajFORCEajPRECEDEaq OR EQUALalOVEajSUCCEEDaq OR EQUALacG",
    "ad FACEadRA ABBREVIATION SIGNagLETTER AaoAaoIaoUanBAaoHAanCAaoHAanDAaoDAapHAaoHAanEanGAaoHA",
    "anHAanIaoIanJAaoHAanKAaoHAanLAanMAanNAaoGAaoNAaoYAanOanPAaoHAanRAaoRAanSAaoHAaoSAanTAaoHA",
    "aoTAapHAanUaoUanVAanYAagSIGN ANUSVARAalNUKTAalVIRAMAanSARGAagVOWEL SIGN AAasIasUarEarIasIarO",
    "arUasUarVOCALIC RbaRacLLAR SIGNadPHINacMINO TILE HORIZONTAL BACKaw-00-00bb1bb2bb3bb4bb5bb6",
    "ay1-00bb1bb2bb3bb4bb5bb6ay2-00bb1bb2bb3bb4bb5bb6ay3-00bb1bb2bb3bb4bb5bb6ay4-00bb1bb2bb3bb4",
    "bb5bb6ay5-00bb1bb2bb3bb4bb5bb6ay6-00bb1bb2bb3bb4bb5bb6amVERTICAL BACKau-00-00az1az2az3az4az5",
    "az6aw1-00az1az2az3az4az5az6aw2-00az1az2az3az4az5az6aw3-00az1az2az3az4az5az6aw4-00az1az2az3",
    "az4az5az6aw5-00az1az2az3az4az5az6aw6-00az1az2az3az4az5az6acNG SIGNacORacT ABOVEaeMINUS",
    "aeOPERATORaePLUSadTED CIRCLEaiROSSahFENCEahLINE FACEahOBELOSahRIGHT-POINTING ANGLEahSOLIDUS",
    "aiQUAREahTRANSPOSITION MARKERacUBLE ACUTE ACCENTahCIRCLED DIGIT EIGHTavFIVEawOURavNINEavONE",
    "avSEVENawIXavTHREEawWOapNUMBER TENaiOLON EQUALaiURLY LOOPahDAGGERaiOWN TACK",
    "ahEXCLAMATION MARKahHIGH-REVERSED-9 QUOTATION MARKaiYPHENahINTEGRALalRSECTION",
    "ahLEFT ARC GREATER-THAN BRACKETaiOGICAL ANDapORajW LINEak-9 QUOTATION MARK",
    "alREVERSED-9 QUOTATION MARKahNESTED GREATER-THANaoLESS-THANax WITH UNDERBARahOBLIQUE HYPHEN",
    "ahPLUSaiRECEDESajIMEam QUOTATION MARKahQUESTION MARKahRIGHT ARC LESS-THAN BRACKET",
    "ahSOLIDUS OPERATORaiQUARE INTERSECTIONaoUNIONaiTACKED COMMAajROKE NOT SIGNaiUBSETajCCEEDS",
    "ajPERSETajSPENSION MARKahUNIONaiP TACKahVERTICAL BARat DOUBLE LEFT TURNSTILE",
    "bbRIGHT TURNSTILEauLEFT TURNSTILEaqLINEahWAVY OVERLINEag-ENDED MULTIMAP",
    "ahLINE EQUAL TO OR GREATER-THANayLESS-THANamSLANTED EQUAL TO OR GREATER-THANbgLESS-THAN",
    "auGREATER-THAN OR EQUAL TOauLESS-THAN OR EQUAL TOahSTRUCK CAPITAL CawGAMMAawHawNawPaxIawQawR",
    "awZaoITALIC CAPITAL DavSMALL DbbEbbIbbJaoN-ARY SUMMATIONaoSMALL GAMMAauPIagD FEMALE SIGN",
    "aiMALE SIGNaiSYMBOLadGHNUTacVE OF PEACEacWN ARROWHEADafFISH TAILafRIGHT DIAGONAL ELLIPSIS",
    "afTACKaj WITH CIRCLE BELOWae-POINTING RED TRIANGLEaoSMALL RED TRIANGLE",
    "aoTRIANGLE WITH LEFT HALF BLACKbcRIGHT HALF BLACKaeWARD FACING HOOKau WITH DOTaqNOTCHED HOOK",
    "bc WITH DOTaiS ANCORAalRROWap AND RIGHT ONE EIGHTH BLOCKaqFROM BAR",
    "aqLEFTWARDS OF UPWARDS ARROWaqTO BARaqWITH CORNER LEFTWARDSavDOUBLE STROKE",
    "avEQUILATERAL ARROWHEADavHORIZONTAL STROKEavLARGE TRIANGLE ARROWHEAD",
    "avMEDIUM TRIANGLE ARROWHEADavNOTCHED TAILavSMALL EQUILATERAL ARROWHEADbbTRIANGLE ARROWHEAD",
    "avTIP LEFTWARDSazRIGHTWARDSakBLACK ARROWaqCIRCLED WHITE ARROWakCOMPRESSED ARROW",
    "akDASHED ARROWalOUBLE ARROWakFINGER-POST ARROW",
    "akHARPOON WITH BARB LEFT BESIDE DOWNWARDS HARPOON WITH BARB RIGHT",
    "boUPWARDS HARPOON WITH BARB RIGHTbhFROM BARbhTO BARbgWARDSbcRIGHT FROM BARbiTO BARbhWARDS",
    "alEAVY ARROWaqCOMPRESSED ARROWakPAIRED ARROWSakQUADRUPLE ARROWakROCKETakSANS-SERIF ARROW",
    "alQUARED ARROWakTRIANGLE ARROWHEADas-HEADED ARROW",
    "bf LEFTWARDS OF UPWARDS TRIANGLE-HEADED ARROWbgTO BARbgWITH BOLD SHAFT",
    "blDOUBLE HORIZONTAL STROKEblHEAVY SHAFTblLONG TIP LEFTWARDSbuRIGHTWARDSblMEDIUM SHAFT",
    "blNARROW SHAFTblVERY HEAVY SHAFTbaDASHED ARROWbaPAIRED ARROWSbaZIGZAG ARROWanPLE ARROW",
    "alWO HEADED ARROWan-HEADED ARROW WITH TRIANGLE ARROWHEADSakWHITE ARROW",
    "av WITHIN TRIANGLE ARROWHEADakZIGZAG ARROWabRACHMA SIGNadFTING POINT RIGHTWARDS ARROWadGON",
    "ag FACEacESSacIVE SLOW SIGNacOMEDARY CAMELadOLING FACEadP OF BLOODaeLETacUM WITH DRUMSTICKS",
    "abUCKacMPLINGacPLOYAN AFFIX ATTACHED E HOOKayI HOOKayLEFT-TO-RIGHT SECANTaySECANTayTAIL",
    "baNGENTbf HOOKapHIGH ACUTEauCIRCLEauDOTauGRAVEauLINEavONG GRAVEauTIGHT ACUTEauVERTICAL",
    "bc SECANTauWAVEapLEFT HORIZONTAL SECANTaqOW ACUTEauRROWatCIRCLEatDOTatGRAVEatLINEauONG GRAVE",
    "atTIGHT ACUTEatVERTICALbb SECANTatWAVEapMID HORIZONTAL SECANTatVERTICAL SECANT",
    "apRIGHT HORIZONTAL SECANTajDOUBLE MARKajLETTER AarOUaqBaqDar SarHaqEarEarUaqFar NaqGar R S",
    "aqHarLaqIarEaqJar Mat SasNat SasSat WITH DOTasWITH DOTbaS INSIDE AND ABOVEaqKar MasR SarKaqL",
    "arHarONG IavUaqMar Nat SasSasWITH DOTaqNar Mat SasSasWITH DOTarASAL AawIawOawUaqOarAarOHarU",
    "arWaqPar NarERNIN AMayNaqRar SarHarOMANIAN IazUaqSar Jat SasKat RasMasNasPat RasSasTat R",
    "asWITH DOTba BELOWarHORT IarLOAN ANawDHawEEaxHaxNawJawONaxWawUaqTar R SasSarHaqUar NarHarI",
    "aqVarOCALIC MaqWar RarAarEIarHarIarOasWaqXarWaqYEajPUNCTUATION CHINOOK FULL STOP",
    "ajSIGN O WITH CROSSajTHICK LETTER SELECTORabVD"]

/-- The names that begin with E. -/
def listE : List String :=
  ["aaE-MAIL SYMBOLabAGLEacRad OF MAIZEahRICEaeWITH HEARING AIDadTHaf GLOBE AMERICAS",
    "anSIA-AUSTRALIAamEUROPE-AFRICAahROUNDacST SYRIAC CROSSabDITORIAL CORONISabGG",
    "acYPTIAN HIEROGLYPH A001ax2ax3ax4ax5ayAax6ayAayBax7ax8ax9aw10ax1ax2ax3ax4ayAax5ax6ax7ayAax8",
    "ax9aw20ax1ax2ax3ax4ax5ax6ax7ax8ax9aw30ax1ax2ayAax3ax4ax5ax6ax7ax8ax9aw40ayAax1ax2ayAax3ayA",
    "ax4ax5ayAax6ax7ax8ax9aw50ax1ax2ax3ax4ax5ax6ax7ax8ax9aw60ax1ax2ax3ax4ax5ax6ax7ax8ax9aw70",
    "avA001ay2ay3ay4ay5ay6ay7azAazBay8ay9ax10ay1ay2ay3ay4ay5ay6ay7ay8ay9ax20ay1ay2ay3ay4ay5ay6ay7",
    "ay8ay9ax30ay1ay2auB001ax2ax3ax4ax5ayAax6ax7ax8ax9avEGIN SEGMENTauC001ax2ayAayBayCax3ax4ax5",
    "ax6ax7ax8ax9aw10ayAax1ax2ax3ax4ax5ax6ax7ax8ax9aw20ax1ax2ax3ax4auD001ax2ax3ax4ax5ax6ax7ax8ayA",
    "ax9aw10ax1ax2ax3ax4ax5ax6ax7ax8ax9aw20ax1ax2ax3ax4ax5ax6ax7ayAax8ax9aw30ax1ayAax2ax3ax4ayA",
    "ax5ax6ax7ax8ax9aw40ax1ax2ax3ax4ax5ax6ayAax7ax8ayAax9aw50ayAayBayCayDayEayFayGayHayIax1ax2ayA",
    "ax3ax4ayAax5ax6ax7ax8ax9aw60ax1ax2ax3ax4ax5ax6ax7ayAayBayCayDayEayFayGayHauE001ax2ax3ax4ax5",
    "ax6ax7ax8ayAax9ayAaw10ax1ax2ax3ax4ax5ax6ayAax7ayAax8ax9aw20ayAax1ax2ax3ax4ax5ax6ax7ax8ayAax9",
    "aw30ax1ax2ax3ax4ayAax6ax7ax8avND SEGMENTauF001ayAax2ax3ax4ax5ax6ax7ax8ax9aw10ax1ax2ax3ayAax4",
    "ax5ax6ax7ax8ax9aw20ax1ayAax2ax3ax4ax5ax6ax7ax8ax9aw30ax1ayAax2ax3ax4ax5ax6ax7ayAax8ayAax9",
    "aw40ax1ax2ax3ax4ax5ayAax6ayAax7ayAax8ax9aw50ax1ayAayBayCax2ax3auG001ax2ax3ax4ax5ax6ayAax7ayA",
    "ayBax8ax9aw10ax1ayAax2ax3ax4ax5ax6ax7ax8ax9aw20ayAax1ax2ax3ax4ax5ax6ayAax7ax8ax9aw30ax1ax2",
    "ax3ax4ax5ax6ayAax7ayAax8ax9aw40ax1ax2ax3ayAax4ax5ayAax6ax7ax8ax9aw50ax1ax2ax3ax4auH001ax2ax3",
    "ax4ax5ax6ayAax7ax8avORIZONTAL JOINERauI001ax2ax3ax4ax5ayAax6ax7ax8ax9ayAaw10ayAax1ayAax2ax3",
    "ax4ax5avNSERT AT BOTTOM ENDblSTARTbeTOP ENDbiSTARTauK001ax2ax3ax4ax5ax6ax7ax8auL001ax2ayAax3",
    "ax4ax5ax6ayAax7ax8auM001ayAayBax2ax3ayAax4ax5ax6ax7ax8ax9aw10ayAax1ax2ayAayBayCayDayEayFayG",
    "ayHax3ax4ax5ayAax6ayAax7ayAax8ax9aw20ax1ax2ayAax3ax4ayAax5ax6ax7ax8ayAax9aw30ax1ayAax2ax3ayA",
    "ayBax4ax5ax6ax7ax8ax9aw40ayAax1ax2ax3ax4auN001ax2ax3ax4ax5ax6ax7ax8ax9aw10ax1ax2ax3ax4ax5ax6",
    "ax7ax8ayAayBax9aw20ax1ax2ax3ax4ax5ayAax6ax7ax8ax9aw30ax1ax2ax3ayAax4ayAax5ayAax6ax7ayAax8ax9",
    "aw40ax1ax2avL001ay2ay3ay4ay5azAay6ay7ay8ay9ax10ay1ay2ay3ay4ay5ay6ay7azAay8ay9ax20avU001ay2",
    "ay3ay4ay5ay6ay7ay8ay9ax10azAay1azAay2ay3ay4ay5ay6ay7ay8azAay9ax20ay1ay2azAauO001ayAax2ax3ax4",
    "ax5ayAax6ayAayBayCayDayEayFax7ax8ax9aw10ayAayBayCax1ax2ax3ax4ax5ax6ax7ax8ax9ayAaw20ayAax1ax2",
    "ax3ax4ayAax5ayAax6ax7ax8ax9ayAaw30ayAax1ax2ax3ayAax4ax5ax6ayAayBayCayDax7ax8ax9aw40ax1ax2ax3",
    "ax4ax5ax6ax7ax8ax9aw50ayAayBax1avVERLAY MIDDLEauP001ayAax2ax3ayAax4ax5ax6ax7ax8ax9aw10ax1",
    "auQ001ax2ax3ax4ax5ax6ax7auR001ax2ayAax3ayAayBax4ax5ax6ax7ax8ax9aw10ayAax1ax2ax3ax4ax5ax6ayA",
    "ax7ax8ax9aw20ax1ax2ax3ax4ax5ax6ax7ax8ax9auS001ax2ayAax3ax4ax5ax6ayAax7ax8ax9aw10ax1ax2ax3ax4",
    "ayAayBax5ax6ax7ayAax8ax9aw20ax1ax2ax3ax4ax5ax6ayAayBax7ax8ax9aw30ax1ax2ax3ax4ax5ayAax6ax7ax8",
    "ax9aw40ax1ax2ax3ax4ax5ax6auT001ax2ax3ayAax4ax5ax6ax7ayAax8ayAax9ayAaw10ax1ayAax2ax3ax4ax5ax6",
    "ayAax7ax8ax9aw20ax1ax2ax3ax4ax5ax6ax7ax8ax9aw30ax1ax2ayAax3ayAax4ax5ax6auU001ax2ax3ax4ax5ax6",
    "ayAayBax7ax8ax9aw10ax1ax2ax3ax4ax5ax6ax7ax8ax9aw20ax1ax2ax3ayAax4ax5ax6ax7ax8ax9ayAaw30ax1",
    "ax2ayAax3ax4ax5ax6ax7ax8ax9aw40ax1ax2auV001ayAayBayCayDayEayFayGayHayIax2ayAax3ax4ax5ax6ax7",
    "ayAayBax8ax9aw10ax1ayAayBayCax2ayAayBax3ax4ax5ax6ax7ax8ax9aw20ayAayBayCayDayEayFayGayHayIayJ",
    "ayKayLax1ax2ax3ayAax4ax5ax6ax7ax8ayAax9ayAaw30ayAax1ayAax2ax3ayAax4ax5ax6ax7ayAax8ax9aw40ayA",
    "avERTICAL JOINERauW001ax2ax3ayAax4ax5ax6ax7ax8ax9ayAaw10ayAax1ax2ax3ax4ayAax5ax6ax7ayAax8ayA",
    "ax9aw20ax1ax2ax3ax4ayAax5auX001ax2ax3ax4ayAayBax5ax6ayAax7ax8ayAauY001ayAax2ax3ax4ax5ax6ax7",
    "ax8auZ001ax2ayAayBayCayDax3ayAayBax4ayAax5ayAax6ax7ax8ax9aw10ax1ax2ax3ax4ax5ayAayBayCayDayE",
    "ayFayGayHayIax6ayAayBayCayDayEayFayGayHabIGHT PETALLED OUTLINED BLACK FLORETTE",
    "ahOINTED BLACK STARaoPINWHEEL STARaoRECTILINEAR BLACK STARagSPOKED ASTERISK",
    "agTEARDROP-SPOKED PROPELLER ASTERISKafH NOTEabJECT SYMBOLabLBASAN LETTER AapBEapCEaqHEapDE",
    "aqHEapEaqIapFEapGEaqHAMMAarEaqJEapHEapIapJEapKEaqHEapLEaqLEapMEapNAaqDEaqEaqJEapOapPEapQE",
    "apREaqREapSEaqHEapTEaqHEapUapVEapXEapYapZEaqHEacECTRIC ARROWajLIGHT BULBajPLUGajTORCH",
    "aiAL INTERSECTIONadMENT OFak OPENING DOWNWARDSatUPWARDSalWITH DOT ABOVE",
    "aqLONG HORIZONTAL STROKEaqOVERBARaqTWO HORIZONTAL STROKESaqUNDERBAR",
    "aqVERTICAL BAR AT END OF HORIZONTAL STROKEadPHANTadVATORacFacYMAIC LETTER ALEPHaqYINapBETH",
    "apDALETHapGIMELapHEarTHapKAPHapLAMEDHapMEMapNUNapPEapQOPHapRESHapSADHEarMEKHaqHINapTAWaqETH",
    "apWAWapYODHapZAYINajIGATURE ZAYIN-YODHabM DASHadQUADadSPACEacOJI COMPONENT BALDaqCURLY HAIR",
    "aqRED HAIRaqWHITE HAIRagMODIFIER FITZPATRICK TYPE-1-2bg3bg4bg5bg6acPHASIS SYMBOL",
    "adTY DOCUMENTagNESTahOTEak PADanGEagPAGEakSagSETaj WITH LEFT ARROW ABOVEapOVERBAR",
    "apRIGHT ARROW ABOVEapSMALL CIRCLE ABOVEabN DASHadQUADadSPACEacD OF GUARDED AREAahLINE",
    "ahMEDIUMahPROOFakTECTED AREAahSELECTED AREAahTEXTaiRANSMISSIONat BLOCK",
    "aeWITH LEFTWARDS ARROW ABOVEacQadUIRYacTER SYMBOLacVELOPEai WITH DOWNWARDS ARROW ABOVE",
    "aoLIGHTNINGabOLacMacTabPAabQUAL AND PARALLEL TOagTO BY DEFINITIONajOR GREATER-THAN",
    "amLESS-THANamPRECEDESamSUCCEEDSafS COLONahSIGNal ABOVE LEFTWARDS ARROWasPLUS SIGN",
    "asRIGHTWARDS ARROWasTILDE OPERATORanND SLANTED PARALLELbg WITH TILDE ABOVEamWITH BUMPY ABOVE",
    "arDOT BELOWarINFINITY BELOWarTWO DOTS ABOVE AND TWO DOTS BELOWahWITH ASTERISKadIANGULAR TO",
    "aeVALENT TOalWITH FOUR DOTS ABOVEabRASE TO THE LEFTanRIGHTacIS FORM ONEakTWO",
    "acROR-BARRED BLACK CIRCLEatDIAMONDatSQUAREanWHITE CIRCLEatDIAMONDatSQUAREabSAacCadAPE",
    "acTIMATED SYMBOLaiSabTBacHIOPIC COLONalMBINING GEMINATION AND VOWEL LENGTH MARKbeMARK",
    "atVOWEL LENGTH MARKamMAajDIGIT EIGHTapFIVEaqOURapNINEapONEapSEVENaqIXapTHREEaqWOajFULL STOP",
    "ajNUMBER EIGHTYaqFIFTYarORTYaqHUNDREDaqNINETYaqSEVENTYarIXTYaqTENat THOUSANDarHIRTYarWENTY",
    "ajPARAGRAPH SEPARATORakREFACE COLONajQUESTION MARKajSECTION MARKalMICOLONakYLLABLE BAauAatBA",
    "avAauEavEauIauOauUatEauEatIatOauAatUatWAauEavEauIasCAauAatCAavAauEavEauHAawAavEawEavHAaxAawE",
    "axEawIawOawUavIavOavUauIauOauUatEauEatHAavAauEavEauIauOavAauUauWAatIatOauAatUatWAasDAauAatDA",
    "avAauEavEauHAAavEawEavIavOavUauIauOavAauUauWAatEauEatIatOauAatUatWAatZAAauEavEauIauOauUasFA",
    "auAatEauEatIatOatUatWAauEavEauIatYAasGAauAatEauEatGAavAauEavEauIauOauUauWAawAavEawEavIatI",
    "atLOTTAL AbbAbaEbbEbaIbaObbAbaUbaWAatOauAatUauRAGE BWEEbbIazFWEEbbIazGWEbcEbbIazHHWAazKWEbcE",
    "bbIazMWEEbbIazPWEEbbIazQWEbcEbbIatWAavAauEavEauIatYAavAauEavEauIauOauUasHAauAatEauEatHAavA",
    "auEavEauIauOauUauWAavEawEavIauYAawAavEawEavIavOavUatIatOauAatUasJAauAatEauEatIatOauAatUatWA",
    "asKAauAatEauEatIatOauAatUatWAavAauEavEauIatXAavAauEavEauIauOauUauWAawAavEawEavIatYAavAauEavE",
    "auIauOauUasLAauAatEauEatIatOauAatUatWAasMAauAatEauEatIatOauAatUatWAauEavEauIatYAasNAauAatE",
    "auEatIatOauAatUatWAatYAavAauEavEauIauOavAauUauWAasPAauAatEauEatHAavAavRYNGEAL AbeAbdEbeEbdI",
    "bdObdUauEavEauIauOavAauUauWAatIatOauAatUatWAauEavEauIasQAauAatEauEatHAavAauEavEauIauOauUauWA",
    "awAavEawEavIatIatOauAatUatWAavAauEavEauIatYAavAauEavEauIauOauUasRAauAatEauEatIatOauAatUatWA",
    "atYAasSAauAatEauBATBEIT BWAbcFWAbcMWAbcPWAauEatHAavAauEavEauIauOavAauUauWAatIatOauAatSAavA",
    "auEavEauIauOauUatUatWAatZAavAauEavEauIauOauUauWAasTAauAatEauEatHAavAauEavEauIauOavAauUauWA",
    "atIatOauAatSAavAauEavEauIauOauUauWAatTHAAavEawEavIavOavUatUatWAatZAavAauEavEauIauOavAauUasVA",
    "auAatEauEatIatOatUatWAasWAauAatEauEatIatOauAatUasXAauAatEauEatIatOauAatUatWAavAauEavEauIatYA",
    "avAauEavEauIauOauUasYAauAatEauEatIatOauAatUasZAauAatEauEatHAavAauEavEauIauOauUauWAatIatOauA",
    "atUatWAatZAavAauEavEauIauOauUajTONAL MARK CHIRETauDERETaz-HIDETavIFATauHIDETauKENATavURT",
    "auRIKRIKauSHORT RIKRIKauYIZETajWORDSPACEacXabULER CONSTANTacRO SIGNae-CURRENCY SIGN",
    "aePEAN CASTLEajPOST OFFICEabVERGREEN TREEabXCESSadLAMATION MARKamQUESTION MARK",
    "acPRESSIONLESS FACEacTENDED ARABIC-INDIC DIGIT EIGHTbcFIVEbdOURbcNINEbcONEbcSEVENbdIXbcTHREE",
    "bdWObcZEROadRATERRESTRIAL ALIENaeEMELY HEAVY FIVE SPOKED ASTERISKaqGREEK CROSSaqSALTIRE",
    "arIX SPOKED ASTERISKaqWHITE CIRCLEawSQUAREabYEadGLASSESadS"]

/-- The names that begin with F. -/
def listF : List String :=
  ["aaFACE HOLDING BACK TEARSafMASSAGEafPALMafSAVOURING DELICIOUS FOODagCREAMING IN FEAR",
    "afTHROWING A KISSafWITH COLD SWEATamWBOY HATakDIAGONAL MOUTHakFINGER COVERING CLOSED LIPS",
    "akHEAD-BANDAGEakLOOK OF TRIUMPHakMEDICAL MASKalONOCLEakNO GOOD GESTUREakOK GESTURE",
    "alNE EYEBROW RAISEDalPEN EYES AND HAND OVER MOUTHapMOUTHau AND COLD SWEATavVOMITING",
    "akPARTY HORN AND PARTY HATalEEKING EYEalLEADING EYESakROLLING EYESakSTUCK-OUT TONGUE",
    "ba AND TIGHTLY-CLOSED EYESbfWINKING EYEakTEARS OF JOYalHERMOMETER",
    "akUNEVEN EYES AND WAVY MOUTHajOUT MOUTHadSIMILE SIGNadTORYacIRYacLAFELadLEN LEAF",
    "aeING DIAGONAL CROSSING NORTH EAST ARROWbaRISING DIAGONALarIN WHITE CIRCLE IN BLACK SQUARE",
    "acMILYacRSI SYMBOLacTHER CHRISTMASacX ICONaeMACHINEabEARFUL FACEadTHERacMALE SIGN",
    "adININE ORDINAL INDICATORacNCERacRRIS WHEELaeYabFabIELD HOCKEY STICK AND BALLacGURE DASH",
    "ahSPACEacLE CABINETafFOLDERafSEPARATORadM FRAMESafPROJECTORacNITE PART INTEGRALacREae ENGINE",
    "agXTINGUISHERaeCRACKERaeWORK SPARKLERaiSadST PLACE MEDALagQUARTER MOONas SYMBOLatWITH FACE",
    "agSTRONG ISOLATEacSHae CAKE WITH SWIRL DESIGNaeEYEaeING POLE AND FISHadTED HAND SIGN",
    "acVE DOT MARKajPUNCTUATIONabLAG IN HOLEadMINGOadT SHOEaeBREADaeNESSacEUR-DE-LISadXED BICEPS",
    "acOPPY DISKadRAL HEARTadWERag PLAYING CARDSaiUNCTUATION MARKacUSHED FACEacYadING DISC",
    "ahENVELOPEahSAUCERabOGadGYacLDERacNDUEacOTaePRINTSacR ALLadCESadK AND KNIFEao WITH PLATE",
    "aeED PARAGRAPHOSaeINGadM FEEDadTUNE COOKIEacUNTAINadR BALLOON-SPOKED ASTERISK",
    "afCLUB-SPOKED ASTERISKagORNER ARROWS CIRCLING ANTICLOCKWISEafDOT MARKajPUNCTUATION",
    "afLEAF CLOVERafPOINTED BLACK STARafTEARDROP-SPOKED ASTERISKae-PER-EM SPACEaeTH ROOTacX FACE",
    "abRACTION NUMERATOR ONEajSLASHadME WITH AN XalPICTUREalTILESacEEZING FACEadNCH FRANC SIGN",
    "ajIESacIED SHRIMPacOG FACEadNT-FACING BABY CHICKagTILTED SHADOWED WHITE RIGHTWARDS ARROWadWN",
    "afING FACE WITH OPEN MOUTHabSacIabUEL PUMPacLL BLOCKafMOON SYMBOLakWITH FACEafOUTER JOIN",
    "afSTOPaeWIDTH AMPERSANDalPOSTROPHEalSTERISKakBROKEN BARakCENT SIGNalIRCUMFLEX ACCENTalOLON",
    "amMMAaoERCIAL ATakDIGIT EIGHTaqFIVEarOURaqNINEaqONEaqSEVENarIXaqTHREEarWOaqZEROalOLLAR SIGN",
    "akEQUALS SIGNalXCLAMATION MARKakFULL STOPakGRAVE ACCENTamEATER-THAN SIGNakHYPHEN-MINUS",
    "akLATIN CAPITAL LETTER AbfBbfCbfDbfEbfFbfGbfHbfIbfJbfKbfLbfMbfNbfObfPbfQbfRbfSbfTbfUbfVbfW",
    "bfXbfYbfZaqSMALL LETTER AbdBbdCbdDbdEbdFbdGbdHbdIbdJbdKbdLbdMbdNbdObdPbdQbdRbdSbdTbdUbdVbdW",
    "bdXbdYbdZalEFT CURLY BRACKETapPARENTHESISapSQUARE BRACKETapWHITE PARENTHESISamSS-THAN SIGN",
    "alOW LINEakMACRONakNOT SIGNalUMBER SIGNakPERCENT SIGNalLUS SIGNalOUND SIGNakQUESTION MARK",
    "amOTATION MARKakREVERSE SOLIDUSalIGHT CURLY BRACKETaqPARENTHESISaqSQUARE BRACKET",
    "aqWHITE PARENTHESISakSEMICOLONalOLIDUSakTILDEakVERTICAL LINEakWON SIGNakYEN SIGN",
    "acNCTION APPLICATIONadERAL URNacSEabVS1ad2ad3ad4"]

/-- The names that begin with G. -/
def listG : List String :=
  ["aaGAME DIEacRLICabEARae WITH HANDLESajOUT HUBacM STONEadINIacNIEacOMETRIC PROPORTION",
    "ajALLY EQUAL TOarIVALENT TOadRGIAN CAPITAL LETTER AENazNayBANayCANazHARbaINazILayDONayEN",
    "ayGANazHANayHAEbaRazEazIEazOEayINayJHANazILayKANazHARayLASayMANayNARayONayPARazHARayQARayRAE",
    "aySANazHINayTANbaRayUNayVINayWEayXANayYNayZENazHARajLETTER AENarINarNaqBANaqCANarHARasINarIL",
    "aqDONaqELIFIarNaqFIaqGANarHANaqHAEasRatD SIGNarEarIEarOEaqINaqJHANarILaqKANarHAR",
    "aqLABIAL SIGNasSaqMANaqNARaqONaqPARarHARaqQARaqRAEaqSANarHINaqTANasRarURNED GANaqUNaqVINaqWE",
    "aqXANaqYNaqZENarHARajMTAVRULI CAPITAL LETTER AENbiINbiNbhBANbhCANbiHARbjINbiILbhDONbhELIFI",
    "biNbhFIbhGANbiHANbhHAEbjRbkD SIGNbiEbiIEbiOEbhINbhJHANbiILbhKANbiHARbhLABIAL SIGNbjSbhMAN",
    "bhNARbhONbhPARbiHARbhQARbhRAEbhSANbiHINbhTANbjRbiURNED GANbhUNbhVINbhWEbhXANbhYNbhZENbiHAR",
    "ajPARAGRAPH SEPARATORajSMALL LETTER AENaxNawBANawCANaxHARayINaxILawDONawENawGANaxHANawHAEayR",
    "axEaxIEaxOEawINawJHANaxILawKANaxHARawLASawMANawNARawONawPARaxHARawQARawRAEawSANaxHINawTANayR",
    "awUNawVINawWEawXANawYNawZENaxHARacRMAN PENNY SIGNacTA MARKabHOSTabIMEL SYMBOLacRAFFE FACEadL",
    "aeS SYMBOLabLAGOLITIC CAPITAL LETTER AZUbaBIG YUSbbUKYbaCAUDATE CHRIVIbbHRIVIbaDJERVIbbOBRO",
    "bbZELObaFITAbbRITUbaGLAGOLIbaHERUbaIbbNITIAL IZHEbbOTATED BIG YUSbiSMALL YUSbbZHEbdITSA",
    "baKAKObaLATINATE MYSLITEbbJUDIJEbaMYSLITEbaNASHIbaONUbbTUbaPEbbOKOJIbaRITSIbaSHAbcTAbePIC",
    "bbLOVObbMALL YUSbj WITH TAILbbPIDERY HAbaTROKUTASTI AbbSIbbVRIDObaUKUbaVEDEbaYATIbbERIbdU",
    "bcSTUbbObbUbaZEMLJAbbHIVETEalSMALL LETTER AZUayBIG YUSazUKYayCAUDATE CHRIVIazHRIVIayDJERVI",
    "azOBROazZELOayFITAazRITUayGLAGOLIayHERUayIazNITIAL IZHEazOTATED BIG YUSbgSMALL YUSazZHE",
    "bbITSAayKAKOayLATINATE MYSLITEazJUDIJEayMYSLITEayNASHIayONUazTUayPEazOKOJIayRITSIaySHAbaTA",
    "bcPICazLOVOazMALL YUSbh WITH TAILazPIDERY HAayTROKUTASTI AazSIazVRIDOayUKUayVEDEayYATIazERI",
    "bbUbaSTUazOazUayZEMLJAazHIVETEadSS OF MILKacEICH STARKacOBE WITH MERIDIANSadVESadWING STAR",
    "abOAL NETadTacGGLESacLFERacRILLAacTHIC LETTER AHSAapIHVUSaoBAIRKANaoDAGSaoEISaoFAIHUaoGIBA",
    "aoHAGLapWAIRaoIGGWSapUJAaoJERaoKUSMAaoLAGUSaoMANNAaoNAUTHSapINE HUNDREDasTYaoOTHALaoPAIRTHRA",
    "aoQAIRTHRAaoRAIDAaoSAUILaoTEIWSapHIUTHaoURUSaoWINJAabRADUATION CAPadNTHA AU LENGTH MARK",
    "aiLETTER AaqAaqIaqUapBAaqHAapCAaqHAapDAaqDAarHAaqHAapEEapGAaqHAapHAapIaqIapJAaqHAapKAaqHA",
    "apLAaqLAapMAapNAaqGAaqNAaqYAapOOapPAaqHAapRAapSAaqHAaqSAapTAaqHAaqTAarHAapUaqUapVA",
    "aqEDIC ANUSVARAavDOUBLE ANUSVARAaqOCALIC LayLaxRayRapYAaiOMaiSIGN ANUSVARAaoVAGRAHA",
    "anCANDRABINDUaoOMBINING ANUSVARA ABOVEanNUKTAanPLUTAanVIRAMAapSARGAaiVOWEL SIGN AAauIauUatEE",
    "atIauIatOOatUauUatVOCALIC LbcLbbRbcRadPESadVE ACCENT",
    "acEATER-THAN ABOVE DOUBLE-LINE EQUAL ABOVE LESS-THANatLESS-THAN ABOVE DOUBLE-LINE EQUAL",
    "atRIGHTWARDS ARROWatSIMILAR ABOVE LESS-THANbbOR EQUAL",
    "auLANTED EQUAL ABOVE LESS-THAN ABOVE SLANTED EQUALaoND NOT APPROXIMATE",
    "arSINGLE-LINE NOT EQUAL TOanBESIDE LESS-THANaoUT NOT EQUAL TOayIVALENT TOanCLOSED BY CURVE",
    "bc ABOVE SLANTED EQUALanEQUAL TO OR LESS-THANanOR APPROXIMATEaqEQUAL TOatIVALENT TO",
    "aqLESS-THANaqSLANTED EQUAL TObg WITH DOT ABOVEbv LEFTbqINSIDEaoVER EQUAL TO",
    "arLAPPING LESS-THANanSIGNanWITH CIRCLE INSIDEasDOTasQUESTION MARK ABOVE",
    "adEK ACROPHONIC ATTIC FIFTYbc STATERSbdTALENTSbeHOUSANDbl STATERSazVEbb HUNDREDbj STATERS",
    "bkTALENTSbcSTATERSbcTALENTSbdHOUSANDbk TALENTSaxONE DRACHMAbbHALFbcUNDRED STATERSbjTALENTS",
    "bbQUARTERbbTHOUSAND STATERSbkTALENTSaxTEN MNASbbSTATERSbbTALENTSbcHOUSAND STATERS",
    "arCARYSTIAN FIVE HUNDREDasYRENAIC TWO DRACHMASarDELPHIC FIVE MNASarEPIDAUREAN FIVE HUNDRED",
    "bcTWObf DRACHMASarHERAEUM ONE PLETHRONauMIONIAN FIFTYbcONEbcTENarMESSENIAN TEN",
    "arNAXIAN FIVE HUNDREDarSTRATIAN FIFTY MNASarTHESPIAN FIFTYbcVE HUNDREDbfTHOUSANDbaONE",
    "bd HUNDREDbeTHOUSANDbaTENbbHIRTYbcREE HUNDREDbbWOasROEZENIAN FIFTYbh ALTERNATE FORMbeVE",
    "bg HUNDREDbcTENbf ALTERNATE FORMahNO TELEIAahROURA SIGNaiTABE SIGNagBETA SYMBOL",
    "agCAPITAL DOTTED LUNATE SIGMA SYMBOLaoKAI SYMBOLaoLETTER ALPHAba WITH DASIAbl AND OXIA",
    "bu AND PROSGEGRAMMENIbqPERISPOMENIcb AND PROSGEGRAMMENIbrROSGEGRAMMENIbqVARIA",
    "bv AND PROSGEGRAMMENIbgMACRONbgOXIAbgPROSGEGRAMMENIbhSILIbl AND OXIAbu AND PROSGEGRAMMENI",
    "bqPERISPOMENIcb AND PROSGEGRAMMENIbrROSGEGRAMMENIbqVARIAbv AND PROSGEGRAMMENIbgTONOSbgVARIA",
    "bhRACHYawRCHAIC SAMPIavBETAavCHIavDELTAavEPSILONbc WITH DASIAbn AND OXIAbsVARIAbiOXIAbiPSILI",
    "bn AND OXIAbsVARIAbiTONOSbiVARIAawTAay WITH DASIAbj AND OXIAbs AND PROSGEGRAMMENI",
    "boPERISPOMENIbz AND PROSGEGRAMMENIbpROSGEGRAMMENIboVARIAbt AND PROSGEGRAMMENIbeOXIA",
    "bePROSGEGRAMMENIbfSILIbj AND OXIAbs AND PROSGEGRAMMENIboPERISPOMENIbz AND PROSGEGRAMMENI",
    "bpROSGEGRAMMENIboVARIAbt AND PROSGEGRAMMENIbeTONOSbeVARIAavGAMMAavHETAavIOTAaz WITH DASIA",
    "bk AND OXIAbpPERISPOMENIbpVARIAbgIALYTIKAbfMACRONbfOXIAbfPSILIbk AND OXIAbpPERISPOMENI",
    "bpVARIAbfTONOSbfVARIAbgRACHYavKAPPAavLAMDAavMUavNUavOMEGAba WITH DASIAbl AND OXIA",
    "bu AND PROSGEGRAMMENIbqPERISPOMENIcb AND PROSGEGRAMMENIbrROSGEGRAMMENIbqVARIA",
    "bv AND PROSGEGRAMMENIbgOXIAbgPROSGEGRAMMENIbhSILIbl AND OXIAbu AND PROSGEGRAMMENI",
    "bqPERISPOMENIcb AND PROSGEGRAMMENIbrROSGEGRAMMENIbqVARIAbv AND PROSGEGRAMMENIbgTONOSbgVARIA",
    "axICRONbc WITH DASIAbn AND OXIAbsVARIAbiOXIAbiPSILIbn AND OXIAbsVARIAbiTONOSbiVARIA",
    "avPAMPHYLIAN DIGAMMAawHIawIawSIavRHOay WITH DASIAavSANawHOawIGMAavTAUawHETAavUPSILON",
    "bc WITH DASIAbn AND OXIAbsPERISPOMENIbsVARIAbjIALYTIKAbiMACRONbiOXIAbiTONOSbiVARIAbjRACHY",
    "avXIavYOTavZETAapUNATE SIGMA SYMBOLaoREVERSED DOTTED LUNATE SIGMA SYMBOL",
    "axLUNATE SIGMA SYMBOLaoTHETA SYMBOLagDASIAal AND OXIAaqPERISPOMENIaqVARIAahIALYTIKA AND OXIA",
    "auPERISPOMENIauVARIAaqTONOSahRACHMA SIGNagFIVE OBOLS SIGNahOUR OBOLS SIGNagGRAMMA SIGN",
    "agINDICTION SIGNaiSTRUMENTAL NOTATION SYMBOL-1bk1bk2bk3bk4bk7bk8bk9bj2bk3bk4bk5bk6bk7bk9bj30",
    "bk2bk6bk7bk8bk9bj4bk0bk2bk3bk5bk7bk8bk9bj5bk0bk1bk2bk3bk4bj7bj8agKAI SYMBOLaiPPA SYMBOL",
    "ahORONISahYATHOS BASE SIGNagLETTER ARCHAIC KOPPAanDIGAMMAanKOPPAanSAMPIaoMALL CAPITAL GAMMA",
    "bbLAMDAbbOMEGAbbPIbcSIbbRHOaoTIGMAanYOTahITRA SIGNahOWER NUMERAL SIGNahUNATE EPSILON SYMBOL",
    "anSIGMA SYMBOLagMETRETES SIGNahUSICAL LEIMMAagNUMERAL SIGNagOBOL SIGNahNE HALF SIGN",
    "at ALTERNATE FORMakQUARTER SIGNahUNKIA SIGNahXIAagPERISPOMENIahHI SYMBOLahI SYMBOL",
    "ahROSGEGRAMMENIahSILIal AND OXIAaqPERISPOMENIaqVARIAagQUESTION MARK",
    "agREVERSED LUNATE EPSILON SYMBOLahHO SYMBOLakWITH STROKE SYMBOLagSINUSOID SIGN",
    "ahMALL DOTTED LUNATE SIGMA SYMBOLamLETTER ALPHAay WITH DASIAbj AND OXIAbs AND YPOGEGRAMMENI",
    "boPERISPOMENIbz AND YPOGEGRAMMENIboVARIAbt AND YPOGEGRAMMENIboYPOGEGRAMMENIbeMACRONbeOXIA",
    "bi AND YPOGEGRAMMENIbePERISPOMENIbp AND YPOGEGRAMMENIbfSILIbj AND OXIAbs AND YPOGEGRAMMENI",
    "boPERISPOMENIbz AND YPOGEGRAMMENIboVARIAbt AND YPOGEGRAMMENIboYPOGEGRAMMENIbeTONOSbeVARIA",
    "bj AND YPOGEGRAMMENIbfRACHYbeYPOGEGRAMMENIauRCHAIC KOPPAbbSAMPIatBETAatCHIatDELTAauIGAMMA",
    "atEPSILONba WITH DASIAbl AND OXIAbqVARIAbgOXIAbgPSILIbl AND OXIAbqVARIAbgTONOSbgVARIAauTA",
    "aw WITH DASIAbh AND OXIAbq AND YPOGEGRAMMENIbmPERISPOMENIbx AND YPOGEGRAMMENIbmVARIA",
    "br AND YPOGEGRAMMENIbmYPOGEGRAMMENIbcOXIAbg AND YPOGEGRAMMENIbcPERISPOMENI",
    "bn AND YPOGEGRAMMENIbdSILIbh AND OXIAbq AND YPOGEGRAMMENIbmPERISPOMENIbx AND YPOGEGRAMMENI",
    "bmVARIAbr AND YPOGEGRAMMENIbmYPOGEGRAMMENIbcTONOSbcVARIAbh AND YPOGEGRAMMENIbcYPOGEGRAMMENI",
    "atFINAL SIGMAatGAMMAatHETAatIOTAax WITH DASIAbi AND OXIAbnPERISPOMENIbnVARIAbeIALYTIKA",
    "bm AND OXIAbrPERISPOMENIbrTONOSbrVARIAbdMACRONbdOXIAbdPERISPOMENIbeSILIbi AND OXIA",
    "bnPERISPOMENIbnVARIAbdTONOSbdVARIAbeRACHYatKAPPAauOPPAatLAMDAatMUatNUatOMEGAay WITH DASIA",
    "bj AND OXIAbs AND YPOGEGRAMMENIboPERISPOMENIbz AND YPOGEGRAMMENIboVARIAbt AND YPOGEGRAMMENI",
    "boYPOGEGRAMMENIbeOXIAbi AND YPOGEGRAMMENIbePERISPOMENIbp AND YPOGEGRAMMENIbfSILIbj AND OXIA",
    "bs AND YPOGEGRAMMENIboPERISPOMENIbz AND YPOGEGRAMMENIboVARIAbt AND YPOGEGRAMMENI",
    "boYPOGEGRAMMENIbeTONOSbeVARIAbj AND YPOGEGRAMMENIbeYPOGEGRAMMENIavICRONba WITH DASIA",
    "bl AND OXIAbqVARIAbgOXIAbgPSILIbl AND OXIAbqVARIAbgTONOSbgVARIAatPAMPHYLIAN DIGAMMAauHIauI",
    "auSIatRHOaw WITH DASIAbcPSILIatSAMPIavNauHOauIGMAauTIGMAatTAUauHETAatUPSILONba WITH DASIA",
    "bl AND OXIAbqPERISPOMENIbqVARIAbhIALYTIKAbp AND OXIAbuPERISPOMENIbuTONOSbuVARIAbgMACRON",
    "bgOXIAbgPERISPOMENIbhSILIbl AND OXIAbqPERISPOMENIbqVARIAbgTONOSbgVARIAbhRACHYatXIatZETA",
    "amREVERSED DOTTED LUNATE SIGMA SYMBOLavLUNATE SIGMA SYMBOLahUBSCRIPT SMALL LETTER BETAbdCHI",
    "bdGAMMAbdPHIbdRHOahYMBOL TAU RHOagTALENT SIGNahHETA SYMBOLaiREE OBOLS SIGNamQUARTERS SIGN",
    "ahONOSahRYBLION BASE SIGNahWO OBOLS SIGNakTHIRDS SIGNagUPSILON WITH ACUTE AND HOOK SYMBOL",
    "atDIAERESIS AND HOOK SYMBOLatHOOK SYMBOLagVARIAahOCAL NOTATION SYMBOL-1bd0bd1bd2bd3bd4bd5bd6",
    "bd7bd8bd9bc2bd0bd1bd2bd3bd4bc3bc4bc5bd0bd1bd2bd3bd4bc6bc7bc8bc9agXESTES SIGNagYEAR SIGN",
    "ahPOGEGRAMMENIagZERO SIGNaeN APPLEagBOOKagHEARTagSALADacIMACING FACE",
    "adNNING CAT FACE WITH SMILING EYESajFACEan WITH ONE LARGE AND ONE SMALL EYEatSMILING EYES",
    "auTAR EYESacOUP MARKagSEPARATORadWING HEARTabSabUARANI SIGNaeDSMANacIDE DOGadTAR",
    "acJARATI ABBREVIATION SIGNajDIGIT EIGHTapFIVEaqOURapNINEapONEapSEVENaqIXapTHREEaqWOapZERO",
    "ajLETTER AarAarIarUaqBAarHAaqCAarHAaqDAarDAasHAarHAaqEaqGAarHAaqHAaqIarIaqJAarHAaqKAarHAaqLA",
    "arLAaqMAaqNAarGAarNAarYAaqOaqPAarHAaqRAaqSAarHAarSAaqTAarHAarTAasHAaqUarUaqVAarOCALIC LazL",
    "ayRazRaqYAaqZHAajOMajRUPEE SIGNajSIGN ANUSVARAapVAGRAHAaoCANDRABINDUapIRCLE NUKTA ABOVE",
    "aoMADDAHaoNUKTAaoSHADDAapUKUNaoTHREE-DOT NUKTA ABOVEapWO-CIRCLE NUKTA ABOVEaoVIRAMAaqSARGA",
    "ajVOWEL CANDRA EawOapSIGN AAavIavUauCANDRA EbbOauEauIavIauOauUavUauVOCALIC LbdLbcRbdR",
    "acNJALA GONDI DIGIT EIGHTauFIVEavOURauNINEauONEauSEVENavIXauTHREEavWOauZEROaoLETTER AawAawI",
    "awUavBAawHAavCAawHAavDAawDAaxHAawHAavEEavGAawHAavHAavIawIavJAawHAavKAawHAavLAawLAavMAavNA",
    "awGAavOOavPAawHAavRAavSAavTAawHAawTAaxHAavUawUavVAavYAaoOMaoSIGN ANUSVARAatVISARGAaoVIRAMA",
    "apOWEL SIGN AAbaIbaUazEEazIbaIazOOazUbaUacRMUKHI ABBREVIATION SIGNakDDAKajDIGIT EIGHTapFIVE",
    "aqOURapNINEapONEapSEVENaqIXapTHREEaqWOapZEROajEK ONKARajIRIajLETTER AarAarIarUaqBAarHAaqCA",
    "arHAaqDAarDAasHAarHAaqEEaqFAaqGAarHAasHAaqHAaqIarIaqJAarHAaqKAarHAasHAaqLAarLAaqMAaqNAarGA",
    "arNAarYAaqOOaqPAarHAaqRAarRAaqSAarHAaqTAarHAarTAasHAaqUarUaqVAaqYAaqZAajSIGN ADAK BINDI",
    "aoBINDIaoNUKTAaoUDAATaoVIRAMAaqSARGAaoYAKASHajTIPPIajURAajVOWEL SIGN AAavIavUauEEauIavIauOO",
    "auUavU"]

/-- The names that begin with H. -/
def listH : List String :=
  ["aaHADESacIR SPACEaeCUTacLFWIDTH BLACK SQUAREakDOWNWARDS ARROWakFORMS LIGHT VERTICAL",
    "akHANGUL FILLERarLETTER AazEayCHIEUCHazIEUCayEazOazUayHIEUHayIazEUNGayKHIEUKHazIYEOKbe-SIOS",
    "ayMIEUMayNIEUNbd-CIEUCbeHIEUHayOazEayPHIEUPHazIEUPbd-SIOSayRIEULbd-HIEUHbeKIYEOKbeMIEUM",
    "bePHIEUPHbfIEUPbeSIOSbeTHIEUTHaySIOSazSANGCIEUCbdKIYEOKbdPIEUPbdSIOSbdTIKEUTayTHIEUTHazIKEUT",
    "ayUayWAbaEazEbaOazIayYAbaEazEbaOazIazOazUakIDEOGRAPHIC COMMAawFULL STOPakKATAKANA LETTER A",
    "baEbaHAbbEbbIbbObbUbaIbaKAbbEbbIbbObbUbaMAbbEbbIbbObbUbaNbbAbbEbbIbbObbUbaObaRAbbEbbIbbObbU",
    "baSAbbEbbIbbMALL AbgEbgIbgObgTUbgUbgYAbhObhUbbObbUbaTAbbEbbIbbObbUbaUbaWAbbObaYAbbObbU",
    "atMIDDLE DOTatSEMI-VOICED SOUND MARKatVOICED SOUND MARKas-HIRAGANA PROLONGED SOUND MARK",
    "akLEFT CORNER BRACKETaoWARDS ARROWakRIGHT CORNER BRACKETapWARDS ARROWakUPWARDS ARROW",
    "akWHITE CIRCLEacMBURGERadMERag AND PICKalSICKLEalWRENCHadSAaeTER FACE",
    "acND WITH INDEX AND MIDDLE FINGERS CROSSEDaqFINGER AND THUMB CROSSEDaeBAGagLLaeSHAKE",
    "adGUL CHOSEONG CEONGCHIEUMCHIEUCHbcIEUCbbSIOSbcSANGCIEUCbgSIOSarHIEUCHax-HIEUHayKHIEUKH",
    "atTUEUMCHIEUCHazIEUCaySIOSazSANGCIEUCbdSIOSarIEUCav-IEUNGaqFILLERaqHIEUHav-SIOSaqIEUNG",
    "av-CHIEUCHaxIEUCawHIEUHawKIYEOKawMIEUMawPANSIOSaxHIEUPHaxIEUPawRIEULawSIOSawTHIEUTHaxIKEUT",
    "aqKAPYEOUNMIEUMayPHIEUPHazIEUPayRIEULaySSANGPIEUParHIEUKHarIYEOKaw-TIKEUTaqMIEUMav-KIYEOK",
    "awPIEUPawSIOSawTIKEUTaqNIEUNav-CIEUCawHIEUHawKIYEOKawPIEUPawSIOSawTIKEUTaqPANSIOSarHIEUPH",
    "ax-HIEUHayPIEUParIEUPav-CHIEUCHaxIEUCawHIEUHawKHIEUKHaxIYEOKawNIEUNawPHIEUPHawSIOSba-CIEUC",
    "bbKIYEOKbbPIEUPbbTHIEUTHbcIKEUTaxSANGSIOSawTHIEUTHaxIKEUTaqRIEULav-CIEUCawHIEUH",
    "awKAPYEOUNPIEUPaxHIEUKHaxIYEOKawMIEUMawNIEUNawPIEUPawSIOSaxSANGKIYEOKbbPIEUPbbTIKEUTawTIKEUT",
    "aqSIOSau-CHIEUCHawIEUCavHIEUHavIEUNGavKHIEUKHawIYEOKavMIEUMavNIEUNavPHIEUPHawIEUPba-KIYEOK",
    "avRIEULavSSANGSIOSavTHIEUTHawIKEUTarSANGCIEUCba-HIEUHavHIEUHavIEUNGavKIYEOKavNIEUNavPIEUP",
    "avRIEULavSIOSaz-PIEUPavTHIEUTHawIKEUTavYEORINHIEUHaqTHIEUTHarIKEUTaw-CIEUCaxKIYEOKaxMIEUM",
    "axPIEUPaxRIEULaxSIOSaqYEORINHIEUHasSIEUNGahDOUBLE DOT TONE MARKahFILLERahJONGSEONG CHIEUCH",
    "asIEUCaw-PIEUPaxSSANGPIEUParHIEUHaw-MIEUMaxNIEUNaxPIEUPaxRIEULarIEUNGaw-KHIEUKHayIYEOK",
    "axSSANGKIYEOKarKAPYEOUNMIEUMazPHIEUPHbaIEUPazRIEULasHIEUKHasIYEOKax-CHIEUCHayHIEUHayKHIEUKH",
    "ayNIEUNayPIEUPayRIEULaySIOSbc-KIYEOKarMIEUMaw-CHIEUCHayIEUCaxHIEUHaxKIYEOKaxNIEUNaxPANSIOS",
    "ayIEUPbc-SIOSaxRIEULaxSIOSaySANGNIEUNbcSIOSarNIEUNaw-CHIEUCHayIEUCaxHIEUHaxKIYEOKaxPANSIOS",
    "axRIEULaxSIOSaxTHIEUTHayIKEUTarPANSIOSay-KAPYEOUNPIEUPazPIEUPasHIEUPHay-PIEUPazSIOSazTHIEUTH",
    "asIEUPaw-CHIEUCHayIEUCaxHIEUHaxMIEUMaxPHIEUPHaxRIEULbc-PHIEUPHaxSIOSbb-TIKEUTaxTIKEUTarRIEUL",
    "aw-HIEUHaxKAPYEOUNPIEUPayHIEUKHayIYEOKbd-HIEUHbeSIOSaxMIEUMbc-HIEUHbdKIYEOKbdSIOSaxNIEUN",
    "axPANSIOSayHIEUPHayIEUPbc-HIEUHbdPHIEUPHbdSIOSbdTIKEUTaxSIOSaySANGKIYEOKbcSIOSaxTHIEUTH",
    "ayIKEUTbd-HIEUHaxYEORINHIEUHbi-HIEUHazSIEUNGarSIOSav-CHIEUCHaxIEUCawHIEUHawKAPYEOUNPIEUP",
    "axIYEOKawMIEUMawPANSIOSaxIEUPawRIEULawTHIEUTHaxIKEUTasSANGCIEUCawIEUNGawKIYEOKawMIEUMawNIEUN",
    "awPIEUPawRIEULbb-KHIEUKHawSIOSba-KIYEOKbbTIKEUTawTIKEUTbc-PIEUPawYESIEUNGarTHIEUTHasIKEUT",
    "ax-CHIEUCHazIEUCayKIYEOKayPIEUPayRIEULaySIOSbc-KIYEOKayTHIEUTHarYEORINHIEUHatSIEUNGaz-HIEUH",
    "baKHIEUKHbbIYEOKbaMIEUMbaPANSIOSbaSIOSbbSANGKIYEOKaiUNGSEONG Aas-EUatOatUasEasRAEAaw-AaxEayO",
    "axIaxUarEasOat-EUauOauUasUat-AauEavOavUauOauUarFILLERarIas-AauRAEAatEUatIatOau-IatUatYAav-O",
    "avEauEavOauOauUarOas-EauOatOau-IatUatYAavEauEavOasEarSSANGARAEAarUas-AauEatEO-EUatI-IatUatYE",
    "avOarWAatEasEatOasIarYAat-OauUauYOatEasEatOau-OavUavYAasIat-UasOat-AavEauEOauIauOauYAawEavEO",
    "asUat-AavEauEavOauIauOauUauYEawOahLETTER AapEapRAEAatEaoCHIEUCHapIEUCaoEapOapUaoHIEUHaoI",
    "apEUNGaoKAPYEOUNMIEUMawPHIEUPHaxIEUPawSSANGPIEUPapHIEUKHapIYEOKau-SIOSaoMIEUMat-PANSIOS",
    "avIEUPauSIOSaoNIEUNat-CIEUCauHIEUHauPANSIOSauSIOSauTIKEUTaoOapEaoPANSIOSapHIEUPHapIEUP",
    "at-CIEUCauKIYEOKauSIOSay-KIYEOKazTIKEUTauTHIEUTHavIKEUTaoRIEULat-HIEUHauKIYEOKba-SIOSauMIEUM",
    "auPANSIOSavHIEUPHavIEUPaz-SIOSauSIOSauTHIEUTHavIKEUTauYEORINHIEUHaoSIOSas-CIEUCatKIYEOK",
    "atNIEUNatPIEUPatTIKEUTapSANGCIEUCatHIEUHatIEUNGatKIYEOKatNIEUNatPIEUPatSIOSatTIKEUTaoTHIEUTH",
    "apIKEUTaoUaoWAaqEapEaqOapIaoYAaqEapEaqOarRINHIEUHaqSIEUNGaw-PANSIOSaxSIOSapIapOaq-IarYAatE",
    "apUaq-IarYEatOahSINGLE DOT TONE MARKaeZHOU NUMERAL EIGHTarFIVEasOURarNINEarONEarSEVENasIX",
    "arTENasHIRTYatREEasWENTYatOadIFI ROHINGYA DIGIT EIGHTawFIVEaxOURawNINEawONEawSEVENaxIX",
    "awTHREEaxWOawZEROaqLETTER AaxBAaxCAaxDAayDAaxFAaxGAaxHAaxJAaxKAayHAayINNA WAbdYAaxLAaxMAaxNA",
    "ayGAayYAaxPAaxRAayRAaxSAayHAaxTAayTAaxVAaxWAaxYAaxZAaqMARK NA KHONNAavSAKINaqSIGN HARBAHAY",
    "avTAHALAaxNAaxSSIaqVOWEL AawEawIawOawUadUNOO LETTER AapBAapDAapGAapHAapIapKAapLAapMAapNAaqGA",
    "apPAapRAapSAapTAapUapWAapYAaiSIGN PAMUDPODaiVOWEL SIGN IatUacPPY PERSON RAISING ONE HAND",
    "acRD DISKacTCHING CHICKadRAN LETTER ALEPHapYNaoBETHaoDALETH-RESHaoGIMELaoHEaqTHaoKAPH",
    "aoLAMEDHaoMEMaoNUNaoPEaoQOPHaoSADHEaqMEKHapHINaoTAWapETHaoWAWaoYODHaoZAYNahNUMBER FIVEaoONE",
    "ar HUNDREDaoTENapWENTYabEADPHONEaeSTONEaj GRAVEYARD SYMBOLadR-NO-EVIL MONKEYaeT DECORATION",
    "agHANDSagWITH ARROWalRIBBONalTIP ON THE LEFTadVY AMPERSAND ORNAMENTahRROW SHAFT WIDTH ONE",
    "bb HALFbcTHIRDayTWO THIRDSahSTERISKagBALLOT XahLACK CURVED DOWNWARDS AND RIGHTWARDS ARROW",
    "atUPWARDS AND RIGHTWARDS ARROWamHEARTal-FEATHERED NORTH EAST ARROWawRIGHTWARDS ARROW",
    "awSOUTH EAST ARROWagCHECK MARKajVRON SNOWFLAKEahIRCLEam WITH CIRCLE INSIDE",
    "asSTROKE AND TWO DOTS ABOVEamD SALTIREahONCAVE-POINTED BLACK RIGHTWARDS ARROW",
    "agDASHED TRIANGLE-HEADED RIGHTWARDS ARROWahIVISION SIGNahOLLAR SIGN",
    "aiUBLE COMMA QUOTATION MARK ORNAMENTanTURNED COMMA QUOTATION MARK ORNAMENT",
    "aiWNWARDS ARROW WITH EQUILATERAL ARROWHEADbbLARGE EQUILATERAL ARROWHEAD",
    "agEIGHT POINTED BLACK STARauPINWHEEL STARauRECTILINEAR BLACK STARamSPOKED ASTERISK",
    "amTEARDROP-SPOKED PROPELLER ASTERISKahQUALS SIGNahXCLAMATION MARK ORNAMENTaxSYMBOL",
    "agFIVE POINTED BLACK STARalSPOKED ASTERISKahOUR BALLOON-SPOKED ASTERISKagGREEK CROSS",
    "agHEART EXCLAMATION MARK ORNAMENTahORIZONTAL FILLagINTERROBANG ORNAMENTagLARGE CIRCLE",
    "aiTIN CROSSahEFT-POINTING ANGLE BRACKET ORNAMENTbaQUOTATION MARK ORNAMENT",
    "akWARDS ARROW WITH EQUILATERAL ARROWHEADbbLARGE EQUILATERAL ARROWHEAD",
    "ahIGATURE OPEN ET ORNAMENTahOW DOUBLE COMMA QUOTATION MARK ORNAMENT",
    "akSINGLE COMMA QUOTATION MARK ORNAMENTajER RIGHT-SHADOWED WHITE RIGHTWARDS ARROWagMINUS SIGN",
    "ahULTIPLICATION XagNORTH EAST ARROWarPOINTING BUDbaVINE LEAFamWEST POINTING BUDbaVINE LEAF",
    "agOPEN CENTRE CROSSahUTLINED BLACK STARahVAL WITH OVAL INSIDEagPLUS SIGN",
    "agRIGHT-POINTING ANGLE BRACKET ORNAMENTbbQUOTATION MARK ORNAMENTalWARDS ARROW",
    "aw WITH EQUILATERAL ARROWHEADbcLARGE EQUILATERAL ARROWHEADahOUND-TIPPED RIGHTWARDS ARROW",
    "agSALTIREaiNS-SERIF INTERROBANG ORNAMENTahCRIPT LIGATURE ET ORNAMENT",
    "ahINGLE COMMA QUOTATION MARK ORNAMENTanTURNED COMMA QUOTATION MARK ORNAMENT",
    "aiX POINTED BLACK STARakSPOKED ASTERISKahOUTH EAST ARROWarPOINTING BUDbaVINE LEAF",
    "amWEST POINTING BUDbaVINE LEAFahPARKLEagTEARDROP-SHANKED RIGHTWARDS ARROWaqPOKED ASTERISK",
    "awPINWHEEL ASTERISKahRIANGLE-HEADED RIGHTWARDS ARROWahWELVE POINTED BLACK STAR",
    "avPINWHEEL STARagUPPER RIGHT-SHADOWED WHITE RIGHTWARDS ARROW",
    "aiWARDS ARROW WITH EQUILATERAL ARROWHEADazLARGE EQUILATERAL ARROWHEADagVERTICAL BAR",
    "agWEDGE-TAILED RIGHTWARDS ARROWahHITE CIRCLEamDOWN-POINTING TRIANGLEamSQUARE",
    "ahIDE-HEADED RIGHTWARDS ARROWacBREW ACCENT ATNAH HAFUKHaoDARGAapEHIaoETNAHTAaoGERESH",
    "au MUQDAMarSHAYIMaoILUYaoMAHAPAKHapERKHAau KEFULAapUNAHaoOLEaoPASHTAaqZERaoQADMAaqRNEY PARA",
    "aoREVIAaoSEGOLapHALSHELETaoTELISHA GEDOLAawQETANAaqVIRapIPEHAaoYERAH BEN YOMOaqTIV",
    "aoZAQEF GADOLauQATANaqRQAapINORahLETTER ALEFas WITH MAPIQayPATAHayQAMATSaqTERNATIVE AYIN",
    "baPLUS SIGNapYINaoBETar WITH DAGESHaxRAFEaoDALETat WITH DAGESHaoFINAL KAFax WITH DAGESHauMEM",
    "auNUNauPEaw WITH DAGESHauTSADIaoGIMELat WITH DAGESHaoHEaq WITH MAPIQaqTaoKAFar WITH DAGESH",
    "axRAFEaoLAMEDat WITH DAGESHaoMEMar WITH DAGESHaoNUNar WITH DAGESHaoPEaq WITH DAGESHawRAFE",
    "aoQOFar WITH DAGESHaoRESHas WITH DAGESHaoSAMEKHau WITH DAGESHapHINas WITH DAGESH",
    "be AND SHIN DOTbkIN DOTaySHIN DOTazIN DOTaoTAVar WITH DAGESHapETar WITH DAGESHapSADI",
    "at WITH DAGESHaoVAVar WITH DAGESHaxHOLAMaoWIDE ALEFatDALETatFINAL MEMatHEatKAFatLAMEDatRESH",
    "atTAVaoYODar WITH DAGESHaxHIRIQaoZAYINat WITH DAGESHaiIGATURE ALEF LAMEDaqYIDDISH DOUBLE VAV",
    "bfYODayVAV YODayYOD YOD PATAHahMARK LOWER DOTamMASORA CIRCLEamUPPER DOT",
    "ahPOINT DAGESH OR MAPIQanHATAF PATAHatQAMATSatSEGOLaoIRIQaoOLAMas HASER FOR VAV",
    "anJUDEO-SPANISH VARIKAanMETEGanPATAHanQAMATSat QATANaoUBUTSanRAFEanSEGOLaoHEVAapIN DOT",
    "aoIN DOTanTSEREaiUNCTUATION GERESHawSHAYIMatMAQAFatNUN HAFUKHAatPASEQatSOF PASUQ",
    "ahYOD TRIANGLEacDGEHOGacLICOPTERadLSCHREIBER PAUSE SYMBOLadM SYMBOLaeET WITH WHITE CROSS",
    "acNTAIGANA LETTER A-1au2au3auWOasE-1au2au3au4au5au6asHA-1aw0aw1av2av3av4av5av6av7av8av9atE-1",
    "av2av3av4av5av6av7atI-1av2av3av4av5av6av7atO-1av2av3av4av5av6av7av8atU-1av2av3asI-1au2au3au4",
    "asKA-1aw0aw1av2av3av4av5av6av7av8av9avKEatE-1av2av3av4av5av6atI-1av2av3av4av5av6av7av8atO-1",
    "av2av3avKIatU-1av2av3av4av5av6av7asMA-1av2av3av4av5av6av7atE-1av2avMAatI-1av2av3av4av5av6av7",
    "atO-1av2av3av4av5av6atU-1av2av3av4asN-MU-MO-1ba2atA-1av2av3av4av5av6av7av8av9atE-1av2av3av4",
    "av5av6avKOatI-1av2av3av4av5av6av7avTEatO-1av2av3av4av5atU-1av2av3asO-1au2au3asRA-1av2av3av4",
    "atE-1av2av3av4atI-1av2av3av4av5av6av7atO-1av2av3av4av5av6atU-1av2av3av4av5av6asSA-1av2av3av4",
    "av5av6av7av8atE-1av2av3av4av5atI-1av2av3av4av5av6atO-1av2av3av4av5av6av7atU-1av2av3av4av5av6",
    "av7av8asTA-1av2av3av4atE-1av2av3av4av5av6av7av8av9atI-1av2av3av4av5av6av7atO-1av2av3av4av5",
    "av6avRAatU-1av2av3av4avTOasU-1au2au3au4au5asWA-1av2av3av4av5atE-1av2av3av4atI-1av2av3av4av5",
    "atO-1av2av3av4av5av6av7asYA-1av2av3av4av5avYOatO-1av2av3av4av5av6atU-1av2av3av4acRB",
    "adMITIAN CONJUGATE MATRIXacXAGRAM FOR ABUNDANCEaoFTER COMPLETIONaoPPROACHanBEFORE COMPLETION",
    "aoITING THROUGHaoREAKTHROUGHanCOMING TO MEETapNFLICTaqTEMPLATIONanDARKENING OF THE LIGHT",
    "aoECREASEapLIVERANCEapVELOPMENTaoIFFICULTY AT THE BEGINNINGapSPERSIONaoURATIONanENTHUSIASM",
    "anFELLOWSHIPaoOLLOWINGanGATHERING TOGETHERaoRACEapEAT POSSESSIONavWERauREPONDERANCEatTAMING",
    "anHOLDING TOGETHERanINCREASEapFLUENCEapNER TRUTHaqOCENCEanLIMITATIONanMODESTYapUTH CORNERS",
    "anOBSTRUCTIONaoPPOSITIONaqRESSIONanPEACEaoROGRESSaoUSHING UPWARDanRETREATaqURNapVOLUTION",
    "anSMALL PREPONDERANCEatTAMINGaoPLITTING APARTaoTANDSTILLanTHE ABYSMAL WATERasRMY",
    "atOUSING THUNDERarCAULDRONasLINGING FIREasREATIVE HEAVENarFAMILYarGENTLE WINDarJOYOUS LAKE",
    "arKEEPING STILL MOUNTAINarMARRYING MAIDENarRECEPTIVE EARTHarWANDERERasELLaoREADINGanWAITING",
    "aoORK ON THE DECAYEDanYOUTHFUL FOLLYabIBISCUSacGH BRIGHTNESS SYMBOLafOCTET PRESET",
    "afVOLTAGE SIGNae-HEELED SHOEafSPEED TRAINaq WITH BULLET NOSEacKING BOOTacNDU TEMPLE",
    "acPPOPOTAMUSacRAGANA DIGRAPH YORIajITERATION MARKajLETTER AarRCHAIC WUayYEaqBAarEarIarOarU",
    "aqDAarEarIarOarUaqEaqGAarEarIarOarUaqHAarEarIarOarUaqIaqKAarEarIarOarUaqMAarEarIarOarUaqNarA",
    "arEarIarOarUaqOaqPAarEarIarOarUaqRAarEarIarOarUaqSAarEarIarMALL AawEawIawKAaxEawOawTUawUawWA",
    "axEaxIaxOawYAaxOaxUarOarUaqTAarEarIarOarUaqUaqVUaqWAarEarIarOaqYAarOarUaqZAarEarIarOarU",
    "ajVOICED ITERATION MARKacSTORIC SITEabOCHOacLEadLOW QUILT SQUARE ORNAMENTbc IN BLACK SQUARE",
    "acMOTHETICacNEY POTafBEEacOKacPacRIZONTAL BARamLACK HEXAGONarOCTAGONalELLIPSIS",
    "alLINE EXTENSIONalMALE WITH STROKE SIGNalONE EIGHTH BLOCK-1358bc2bc3bc4bc5bc6bc7",
    "alSCAN LINE-1av3av7av9alTAB KEYaoULATIONav SETawWITH JUSTIFICATIONamRAFFIC LIGHTadSEaf FACE",
    "agRACINGacSPITALacT BEVERAGEaeDOGaePEPPERaeSPRINGSadELacURGLASSaj WITH FLOWING SANDadSE",
    "af BUILDINGaoSagWITH GARDENabRYVNIA SIGNabTacJacSabUGGING FACEacNDRED POINTS SYMBOL",
    "acSHED FACEacTabYGIEAacPHENag BULLETahWITH DIAERESISag-MINUSagATION POINTadODIASTOLE",
    "acSTERESIS SYMBOL"]

/-- The names that begin with I. -/
def listI : List String :=
  ["aaI LOVE YOU HAND SIGNabCE CREAMafUBEaeHOCKEY STICK AND PUCKaeSKATEabDENTICAL TO",
    "am AND SLANTED PARALLELakWITH DOT ABOVEagFICATION CARDadOGRAPHIC ANNOTATION BOTTOM MARK",
    "axEARTH MARKaxFIRST MARKayOUR MARKbbTH MARKaxHEAVEN MARKaxLINKING MARKaxMAN MARKayIDDLE MARK",
    "axONE MARKaxREVERSE MARKaxSECOND MARKaxTHIRD MARKazREE MARKayOP MARKayWO MARKamCLOSING MARK",
    "anOMMAamDEPARTING TONE MARKaoSCRIPTION CHARACTER ABOVE TO BELOWbrMIDDLE AND BELOW",
    "biFULL SURROUNDbiLEFT TO MIDDLE AND RIGHTbqRIGHTbiOVERLAIDbiSURROUND FROM ABOVEbwBELOWbwLEFT",
    "bxOWER LEFTbwUPPER LEFTccRIGHTamENTERING TONE MARKamFULL STOPamHALF FILL SPACE",
    "amITERATION MARKamLEVEL TONE MARKamNUMBER ZEROamRISING TONE MARKamSPACEamTALLY MARK FIVE",
    "ayOURaxONEaxTHREEayWOanELEGRAPH LINE FEED SEPARATOR SYMBOLawSYMBOL FOR APRILbiUGUST",
    "bhDAY EIGHTbqEENbmLEVENblFIFTEENbnVEbmOURbpTEENblNINEbpTEENblONEblSEVENbqTEENbmIXboTEENblTEN",
    "bmHIRTEENbqYbr-ONEbnREEbmWELVEboNTYbr-EIGHTbsFIVEbtOURbsNINEbsONEbsSEVENbtIXbsTHREEbtWObnO",
    "biECEMBERbhFEBRUARYbhHOUR EIGHTbrEENbnLEVENbmFIFTEENboVEbnOURbqTEENbmNINEbqTEENbmONEbmSEVEN",
    "brTEENbnIXbpTEENbmTENbnHIRTEENboREEbnWELVEbpNTYbs-FOURbtONEbtTHREEbuWOboObmZERObhJANUARY",
    "biULYbjNEbhMARCHbjYbhNOVEMBERbhOCTOBERbhSEPTEMBERamVARIATION INDICATORabMAGE OF",
    "ai OR APPROXIMATELY EQUAL TOacPadERIAL ARAMAIC LETTER ALEPHazYINayBETHayDALETHayGIMELayHE",
    "baTHayKAPHayLAMEDHayMEMayNUNayPEayQOPHayRESHaySADHEbaMEKHazHINayTAWazETHayWAWayYODHayZAYIN",
    "arNUMBER ONEbb HUNDREDbcTHOUSANDayTENbb THOUSANDazHREEazWENTYbaOarSECTION SIGNabNBOX TRAY",
    "acCOMING ENVELOPEafPLETE INFINITYadREASE FONT SIZE SYMBOLaiS ASafMENTacDadEX",
    "af POINTING AT THE VIEWERadIAN RUPEE SIGNaeC SIYAQ ALTERNATE LAKH MARKamFRACTION ONE HALF",
    "azQUARTERavTHREE QUARTERSamLAKH MARKamNUMBER ALTERNATE ONEbdTEN THOUSANDbeWOatEIGHT",
    "ay HUNDREDazTHOUSANDayYaz THOUSANDatFIFTYay THOUSANDavVEax HUNDREDayTHOUSANDauORTY",
    "ay THOUSANDavURax HUNDREDayTHOUSANDatKARORayANatLAKHaxANatNINEax HUNDREDayTHOUSANDaxTY",
    "az THOUSANDatONEaw HUNDREDaxTHOUSANDatPREFIXED EIGHTbcFIVEbdOURbcNINEbcONEbcSEVENbdIXbcTHREE",
    "bdWOatSEVENay HUNDREDazTHOUSANDayTYba THOUSANDauIXaw HUNDREDaxTHOUSANDawTYay THOUSANDatTEN",
    "aw THOUSANDauHIRTYaz THOUSANDavREEay HUNDREDazTHOUSANDauWENTYaz THOUSANDavOaw HUNDRED",
    "axTHOUSANDamPLACEHOLDERamRUPEE MARKacFINITYai NEGATED WITH VERTICAL BAR",
    "adORMATION DESK PERSONamSEPARATOR FOURawONEawTHREEaxWOanOURCEacHIBIT ARABIC FORM SHAPING",
    "aiSYMMETRIC SWAPPINGacPUT SYMBOL FOR LATIN CAPITAL LETTERSaxLETTERSaxSMALL LETTERSarNUMBERS",
    "arSYMBOLSacSCRIPTIONAL PAHLAVI LETTER ALEPHbdBETHbdDALETHbdGIMELbdHEbfTHbdKAPHbdLAMEDH",
    "bdMEM-QOPHbdNUNbdPEbdSADHEbfMEKHbeHINbdTAWbeETHbdWAW-AYIN-RESHbdYODHbdZAYINawNUMBER FOUR",
    "bdONEbg HUNDREDbhTHOUSANDbdTENbeHREEbeWENTYbfOaqRTHIAN LETTER ALEPHbfYINbeBETHbeDALETH",
    "beGIMELbeHEbgTHbeKAPHbeLAMEDHbeMEMbeNUNbePEbeQOPHbeRESHbeSADHEbgMEKHbfHINbeTAWbfETHbeWAW",
    "beYODHbeZAYINaxNUMBER FOURbeONEbh HUNDREDbiTHOUSANDbeTENbfHREEbfWENTYbgOadERTION SYMBOL",
    "acTEGRALai AROUND A POINT OPERATORakVERAGE WITH SLASHajEXTENSIONajWITH DOUBLE STROKE",
    "aoINTERSECTIONaoLEFTWARDS ARROW WITH HOOKaoOVERBARaoTIMES SIGNaoUNDERBARaqIONaeRCALATE",
    "afIOR PRODUCTafLINEAR ANNOTATION ANCHORaxSEPARATORaxTERMINATORagOCKED FEMALE AND MALE SIGN",
    "afROBANGafSECTIONam ABOVE BAR ABOVE UNIONatUNIONanBESIDE AND JOINED WITH INTERSECTION",
    "anWITH DOTasLOGICAL ANDasOVERBARacVERSE BULLETaiCHECK MARKanER BOARD FILL",
    "aiDOWNWARDS ARROW WITH TIP LEFTWARDSaiMEDIUM SHADEaiWHITE CIRCLEafTED EXCLAMATION MARK",
    "ajINTERROBANGajLAZY SakOW KAVYKAat WITH KAVYKA ABOVEajOHM SIGNajPENTAGRAMajQUESTION MARK",
    "ajUNDERTIEadISIBLE PLUSakSEPARATORakTIMESabZAKAYA LANTERN"]

/-- The names that begin with J. -/
def listJ : List String :=
  ["aaJACK-O-LANTERNacPANESE BANK SYMBOLajCASTLEajDOLLSajGOBLINajINDUSTRIAL STANDARD SYMBOL",
    "ajOGREajPOST OFFICEajSYMBOL FOR BEGINNERacRacVANESE CONSONANT SIGN CAKRAayKERETayPENGKAL",
    "ajDIGIT EIGHTapFIVEaqOURapNINEapONEapSEVENaqIXapTHREEaqWOapZEROajLEFT RERENGGANalTTER AarI",
    "aqBAas MURDAaqCAas MURDAaqDAas MAHAPRANAarDAat MAHAPRANAaqEaqGAas MURDAaqHAaqIar KAWIarIaqJA",
    "as MAHAPRANAaqKAas MURDAatSASAKaqLAaqMAaqNAas MURDAarGAat LELETaz RASWADIarYAat MURDAaqOaqPA",
    "as CEREKatMURDAaqRAas AGUNGaqSAas MAHAPRANAauURDAaqTAas MURDAarTAat MAHAPRANAaqUaqWAaqYA",
    "ajPADA ADEGas ADEGapNDAPaoISEN-ISENaoLINGSAapUHURaqNGSIaoMADYAaoPANGKATapISELEH",
    "aoTIRTA TUMETESaoWINDUalNGKONanRANGKEPajRIGHT RERENGGANajSIGN CECAKat TELUaoLAYARaoPANYANGGA",
    "aoWIGNYANajTURNED PADA PISELEHajVOWEL SIGN DIRGA MUREauPEPETauSUKUay MENDUTauTALINGawRUNG",
    "avOLONGauWULUay MELIKabEANSabIGSAW PUZZLE PIECEabOINacYSTICKabUGGLINGacNOacPITER"]

/-- The names that begin with K. -/
def listK : List String :=
  ["aaKAABAacITHI ABBREVIATION SIGNahDANDAaiOUBLE DANDAaoSECTION MARKahENUMERATION SIGN",
    "ahLETTER AapAapIapUaoBAapHAaoCAapHAaoDAapDAaqDHAaqHAapHAaoEaoGAapHAaoHAaoIapIaoJAapHAaoKA",
    "apHAaoLAaoMAaoNAapGAapNAapYAaoOaoPAapHAaoRAapHAaoSAapHAapSAaoTAapHAapTAaqHAaoUapUaoVAaoYA",
    "ahNUMBER SIGNas ABOVEahSECTION MARKaiIGN ANUSVARAamCANDRABINDUamNUKTAamVIRAMAaoSARGA",
    "ahVOWEL SIGN AAatIatUasEasIatIasOasUatUasVOCALIC RacNGAROOaeXI RADICAL AGAINaqNDaqRRIVEasOW",
    "aqXEapBADGERarMBOOaqEANaqIGarRDarTTERaqLACKarOODarUEaqOATarDYarLT OF CLOTHarNEarWaqRANCH",
    "arISTLEarUSHapCARTarULDRONarVEaqHILDaqITYaqLANasWarIFFarOTHESaqOLORarMPAREarRPSEarVERarW",
    "apDEATHarERaqIPPERarSHasTINGUISHarVINATIONaqO NOTarGarORarTasTED CLIFFawTENTarUBLE XarWN BOX",
    "aqRAGONarUMarYapEARasTHarTaqIGHTaqMBROIDERYaqNCLOSUREarTERaqVENatINGaqYEapFACEarNGarTHER",
    "aqEATHERaqIELDarGHTarREarSHaqLUTEarYaqOOTaqRAGRANTarOGaqURapGATEaqHOSTaqOar SLOWLYarLDaqRAIN",
    "asSSapHAIRarLBERDasF TREE TRUNKarNDaqEADasRTarMPaqIDING ENCLOSUREaqOOKarRNasSEapICEaqNCH",
    "arSECTapJADEarRapKNIFEapLACKarMEaqEAFasTHERarEKarGSaqIDarFEarNEaqONGat STRIDEapMANaqEATarLON",
    "aqILLETarNISTERaqOONarRNINGasTARarUNDatTAINasTHapNETaqOSEarTapOLDaqNEasSELFaqPEN BOXarPOSE",
    "apPIGaqLOWaqOWERaqRIVATEarOFOUNDapRAINarParTaqEDaqICEarGHT OPEN BOXarVERaqOOFaqUN",
    "apSACRIFICIAL WINEarLTarYaqCHOLARarRIPTaqEALarCONDarEarLFaqHEEPasLLarOOTasRT TAILED BIRD",
    "awHREADaqICKNESSarLKaqKINaqLASHasVEarICEaqMALLaqNOUTaqOUNDaqPEARasECHarIRITarOONarROUT",
    "aqQUAREaqTANDarEAMasParONEasPatPINGaqUNaqWEETapTABLEarLLarNNED LEATHERaqENaqIGERarLEaqONGUE",
    "arOTHaqRACKarEEarIPODaqURBANasTLEaqWOas HANDSapUSEapVALLEYaqILLAGEapWALKat ENCLOSUREarTER",
    "aqEAPONarSTaqHEATarITEaqINDasEaqOMANarRKaqRAParONGapYELLOWadNADA AI LENGTH MARKaiDIGIT EIGHT",
    "aoFIVEapOURaoNINEaoONEaoSEVENapIXaoTHREEapWOaoZEROaiLENGTH MARKakTTER AaqAaqIaqUapBAaqHAapCA",
    "aqHAapDAaqDAarHAaqHAapEaqEapFAapGAaqHAapHAapIaqIapJAaqHAapKAaqHAapLAaqLAarLAapMAapNA",
    "arKAARA POLLUaqGAaqNAaqYAapOaqOapPAaqHAapRAaqRAapSAaqHAaqSAapTAaqHAaqTAarHAapUaqUapVA",
    "aqOCALIC LayLaxRayRapYAaiSIGN ANUSVARAaoVAGRAHAanCANDRABINDUanJIHVAMULIYAanNUKTAanSIDDHAM",
    "aoPACING CANDRABINDUanUPADHMANIYAanVIRAMAapSARGAaiVOWEL SIGN AAauIauUatEauEatIauIatOauOatU",
    "auUatVOCALIC LbcLbbRbcRacTAKANA DIGRAPH KOTOajITERATION MARKajLETTER AarRCHAIC EayWUayYEazI",
    "aqBAarEarIarOarUaqDAarEarIarOarUaqEaqGAarEarIarOarUaqHAarEarIarOarUaqIaqKAarEarIarOarUaqMA",
    "arEarIasNNAN NASALIZED TONE-1bm2bm3bm4bm5bm7bm8axTONE-2bc3bc4bc5bc7bc8arOarUaqNarAarEarIarO",
    "arUaqOaqPAarEarIarOarUaqRAarEarIarOarUaqSAarEarIarMALL AawEawHAaxEaxIaxOaxUawIawKAaxEaxUawMU",
    "awNaxUawOawRAaxEaxIaxOaxUawSIaxUawTOaxUawUawWAaxEaxIaxOawYAaxOaxUarOarUaqTAarEarIarOarUaqU",
    "aqVAarEarIarOarUaqWAarEarIarOaqYAarOarUaqZAarEarIarOarUajMIDDLE DOTajVOICED ITERATION MARK",
    "ai-HIRAGANA DOUBLE HYPHENasPROLONGED SOUND MARKasSEMI-VOICED SOUND MARKasVOICED SOUND MARK",
    "acYAH LI DIGIT EIGHTapFIVEaqOURapNINEapONEapSEVENaqIXapTHREEaqWOapZEROajLETTER AaqBAaqCAaqDA",
    "aqGAaqHAarTAaqIaqKAarHAaqLAaqMAaqNAarGAarYAaqOEarOaqPAarHAaqRAaqSAarHAaqTAarHAaqVAaqWAaqYA",
    "aqZAajSIGN CWIaoSHYAajTONE CALYAat PLOPHUaoPLOPHUajVOWEL EaqEapOapUaqEabELVIN SIGNacYadBOARD",
    "ai AND MOUSEadCAP TENabHAROSHTHI DIGIT FOURarONEarTHREEasWOalFRACTION ONE HALFalLETTER AasBA",
    "atHAasCAatHAasDAatDAauHAatHAasGAatHAasHAasJAasKAatHAatKAasLAasMAasNAatNAatYAasPAatHAasRAasSA",
    "atHAatSAasTAatHAatTAauHAauTAavHAasVAatHAasYAasZAalNUMBER ONE HUNDREDawTHOUSANDasTENatWENTY",
    "alPUNCTUATION CIRCLEayRESCENT BARaxDANDAayOTazUBLE DANDAaxLINESayOTUSaxMANGALAM",
    "axSMALL CIRCLEalSIGN ANUSVARAaqBAR ABOVEaqCAUDAaqDOT BELOWasUBLE RING BELOWaqVISARGAalVIRAMA",
    "amOWEL LENGTH MARKarSIGN EawIawOawUawVOCALIC RacITAN SMALL SCRIPT CHARACTER-18B00bi1bi2bi3",
    "bi4bi5bi6bi7bi8bi9biAbiBbiCbiDbiEbiFbh10bi1bi2bi3bi4bi5bi6bi7bi8bi9biAbiBbiCbiDbiEbiFbh20bi1",
    "bi2bi3bi4bi5bi6bi7bi8bi9biAbiBbiCbiDbiEbiFbh30bi1bi2bi3bi4bi5bi6bi7bi8bi9biAbiBbiCbiDbiEbiF",
    "bh40bi1bi2bi3bi4bi5bi6bi7bi8bi9biAbiBbiCbiDbiEbiFbh50bi1bi2bi3bi4bi5bi6bi7bi8bi9biAbiBbiCbiD",
    "biEbiFbh60bi1bi2bi3bi4bi5bi6bi7bi8bi9biAbiBbiCbiDbiEbiFbh70bi1bi2bi3bi4bi5bi6bi7bi8bi9biAbiB",
    "biCbiDbiEbiFbh80bi1bi2bi3bi4bi5bi6bi7bi8bi9biAbiBbiCbiDbiEbiFbh90bi1bi2bi3bi4bi5bi6bi7bi8bi9",
    "biAbiBbiCbiDbiEbiFbhA0bi1bi2bi3bi4bi5bi6bi7bi8bi9biAbiBbiCbiDbiEbiFbhB0bi1bi2bi3bi4bi5bi6bi7",
    "bi8bi9biAbiBbiCbiDbiEbiFbhC0bi1bi2bi3bi4bi5bi6bi7bi8bi9biAbiBbiCbiDbiEbiFbhD0bi1bi2bi3bi4bi5",
    "bi6bi7bi8bi9biAbiBbiCbiDbiEbiFbhE0bi1bi2bi3bi4bi5bi6bi7bi8bi9biAbiBbiCbiDbiEbiFbhF0bi1bi2bi3",
    "bi4bi5bi6bi7bi8bi9biAbiBbiCbiDbiEbiFbgC00bi1bi2bi3bi4bi5bi6bi7bi8bi9biAbiBbiCbiDbiEbiFbh10",
    "bi1bi2bi3bi4bi5bi6bi7bi8bi9biAbiBbiCbiDbiEbiFbh20bi1bi2bi3bi4bi5bi6bi7bi8bi9biAbiBbiCbiDbiE",
    "biFbh30bi1bi2bi3bi4bi5bi6bi7bi8bi9biAbiBbiCbiDbiEbiFbh40bi1bi2bi3bi4bi5bi6bi7bi8bi9biAbiBbiC",
    "biDbiEbiFbh50bi1bi2bi3bi4bi5bi6bi7bi8bi9biAbiBbiCbiDbiEbiFbh60bi1bi2bi3bi4bi5bi6bi7bi8bi9biA",
    "biBbiCbiDbiEbiFbh70bi1bi2bi3bi4bi5bi6bi7bi8bi9biAbiBbiCbiDbiEbiFbh80bi1bi2bi3bi4bi5bi6bi7bi8",
    "bi9biAbiBbiCbiDbiEbiFbh90bi1bi2bi3bi4bi5bi6bi7bi8bi9biAbiBbiCbiDbiEbiFbhA0bi1bi2bi3bi4bi5bi6",
    "bi7bi8bi9biAbiBbiCbiDbiEbiFbhB0bi1bi2bi3bi4bi5bi6bi7bi8bi9biAbiBbiCbiDbiEbiFbhC0bi1bi2bi3bi4",
    "bi5bi6bi7bi8bi9biAbiBbiCbiDbiEbiFbhD0bi1bi2bi3bi4bi5auFILLERacMER CURRENCY SYMBOL RIEL",
    "agDIGIT EIGHTamFIVEanOURamNINEamONEamSEVENanIXamTHREEanWOamZEROagINDEPENDENT VOWEL LYbaY",
    "ayQAAbaIbaQbaUazEazIbaIazOO TYPE ONEbhTWOazUbaKbaUbbVayRYbaYagLETTER BAanCAaoHAapOaoOanDAaoO",
    "anHAanKAaoHAapOaoOanLAaoOanMOanNGOaoNOaoOaoYOanPHAapOaoOanQAanROanSAaoHAaoSOanTAaoHAapOaoO",
    "aoTHAaqOanVOanYOagSIGN AHSDAamTTHACANamVAKRAHASANYAalBANTOCanRIYOOSANanTHAMASATamEYYAL",
    "alCAMNUC PII KUUHamOENGalKAKABATamHANamOOMUUTalLEK TOOalMUUSIKATOANalNIKAHITalPHNAEK MUAN",
    "alREAHMUKamOBATalSAMYOK SANNYAalTOANDAKHIATamRIISAPalVIRIAMalYUUKALEAPINTUahYMBOL BEI KOET",
    "arROCaoUON KOETasROCanDAP KOETarROCaq-BEI KOETavROCasUON KOETawROCarMUOY KOETawROCarPII KOET",
    "avROCasRAM KOETawROCanLEK ATTAK BEIayUONaxMUOYaxPIIayRAMbb-BEIbdUONbcMUOYbcPIIaxSON",
    "anMUOY KOETasROCanPATHAMASATaoII KOETarROCaoRAM KOETasROCar-BEI KOETawROCatUON KOETaxROC",
    "asMUOY KOETaxROCasPII KOETawROCanTUTEYASATagVOWEL INHERENT AAawQamSIGN AAasEasIasUarEarIasE",
    "asIarOEasOarUasAasUarYasAasYacOJKI ABBREVIATION SIGNahDANDAaiOUBLE DANDAaoSECTION MARK",
    "ahLETTER AapAapIapUaoBAapBAapHAaoCAapHAaoDAapDAaqDAaqHAapHAaoEaoGAapGAapHAaoHAaoIaoJAapJA",
    "aoKAapHAaoLAapLAaoMAaoNAapGAapNAapYAaoOaoPAapHAaoRAaoSAaoTAapHAapTAaqHAaoUaoVAaoYA",
    "ahSECTION MARKaiIGN ANUSVARAamNUKTAamSHADDAanUKUNamVIRAMAahVOWEL SIGN AAatIatUasEasIatIasO",
    "asUahWORD SEPARATORacUDAWADI DIGIT EIGHTaqFIVEarOURaqNINEaqONEaqSEVENarIXaqTHREEarWOaqZERO",
    "akLETTER AasAasIasUarBAasBAasHAarCAasHAarDAasDAatDAatHAasHAarEarGAasGAasHAarHAarIasIarJAasHA",
    "asJAarKAasHAarLAarMAarNAasGAasNAasYAarOarPAasHAarRAasRAarSAasHAarTAasHAasTAatHAarUasUarVA",
    "arYAakSIGN ANUSVARAapNUKTAapVIRAMAakVOWEL SIGN AAawIawUavEavIawIavOavUawUabIMONOacP SIGNacSS",
    "ae MARKaeING CAT FACE WITH CLOSED EYESaiFACEam WITH CLOSED EYESasSMILING EYESacTEacWIFRUIT",
    "abNEELING PERSONacOTabOALAacREAN STANDARD SYMBOLabRONOS"]

/-- The names that begin with L. -/
def listL : List String :=
  ["aaL B BAR SYMBOLabAB COATadELacCROSSE STICK AND BALLacDDERadY BEETLEacNGUAGE TAG",
    "acO CANCELLATION MARKaeDIGIT EIGHTakFIVEalOURakNINEakONEakSEVENalIXakTHREEalWOakZERO",
    "aeELLIPSISaeHO MOahNOaeKO LAaeLETTER BOalCOalDOalFO FAYapONaoSUNGaoTAMalHO SUNGaoTAM",
    "alKHMU GOaqNYOanO SUNGapTAMamOalLOan LINGapOOTalMOalNGOamOamYOalOalPALI BHAaqCHAaqDDAasHA",
    "arHAaqGHAaqJHAaqLLAaqNNAarYAaqTTAasHAamHO SUNGapTAMamOalROalSANSKRIT SHAavSAamO SUNGaoTAM",
    "alTHO SUNGapTAMamOalWOalYOaeNIGGAHITAaeSEMIVOWEL SIGN LOatNYOafIGN PALI VIRAMA",
    "aeTONE MAI CATAWAanEKanTHOaoIaeVOWEL SIGN AaqAaqIaqMaqYapEaqIapIaqIapMAI KANauONapOapUaqUapY",
    "aqYacRGE BLUE CIRCLEalDIAMONDalSQUAREahROWN CIRCLEamSQUAREagCIRCLEagDOWN TACKagGREEN CIRCLE",
    "amSQUAREagLEFT TRIANGLE OPERATORagONE DOT OVER TWO DOTS PUNCTUATION",
    "akRING OVER TWO RINGS PUNCTUATIONahRANGE CIRCLEanDIAMONDanSQUAREagPURPLE CIRCLEanSQUARE",
    "agRED CIRCLEakSQUAREagTRIPLE VERTICAL BAR OPERATORahWO DOTS OVER ONE DOT PUNCTUATION",
    "akRINGS OVER ONE RING PUNCTUATIONagUP TACKagYELLOW CIRCLEanSQUAREafR THANal OR EQUAL TO",
    "adI SIGNacST QUARTER MOONar SYMBOLasWITH FACEacTIN CAPITAL LETTER Aaw WITH ACUTEbcBREVE",
    "bh AND ACUTEbmDOT BELOWbmGRAVEbmHOOK ABOVEbmTILDEbcCARONbdIRCUMFLEXbm AND ACUTEbrDOT BELOW",
    "brGRAVEbrHOOK ABOVEbrTILDEbcDIAERESISbl AND MACRONbdOT ABOVEbl AND MACRONbgBELOWbeUBLE GRAVE",
    "bcGRAVEbcHOOK ABOVEbcINVERTED BREVEbcMACRONbcOGONEKbcRING ABOVEbm AND ACUTEbhBELOWbcSTROKE",
    "bcTILDEawAawEax WITH ACUTEbdMACRONawFRICAN DawLPHAawNGLICANA WawOawUawV",
    "ax WITH HORIZONTAL BARawYavBaw WITH DOT ABOVEbgBELOWbcFLOURISHbcHOOKbcLINE BELOWbcSTROKE",
    "bcTOPBARawETAawROKEN LavCaw WITH ACUTEbcBARbcCARONbdEDILLAbj AND ACUTEbdIRCUMFLEXbcDOT ABOVE",
    "bcHOOKbcPALATAL HOOKbcSTROKEawHIawLOSED INSULAR GawONawUATRILLObe WITH COMMAavDaw WITH CARON",
    "bdEDILLAbdIRCUMFLEX BELOWbcDOT ABOVEbgBELOWbcHOOKbcLINE BELOWbcSHORT STROKE OVERLAY",
    "bdMALL LETTER Zbq WITH CARONbdTROKEbcTOPBARawZax WITH CARONavEaw WITH ACUTEbcBREVEbcCARON",
    "bdEDILLAbj AND BREVEbdIRCUMFLEXbm AND ACUTEbrDOT BELOWbrGRAVEbrHOOK ABOVEbrTILDEbnBELOW",
    "bcDIAERESISbdOT ABOVEbgBELOWbeUBLE GRAVEbcGRAVEbcHOOK ABOVEbcINVERTED BREVEbcMACRON",
    "bi AND ACUTEbnGRAVEbcOGONEKbcSTROKEbcTILDEbh BELOWawGYPTOLOGICAL AINbkLEFawNGawSHawTaxHawZH",
    "ay REVERSEDazWITH CARONavFaw WITH DOT ABOVEbcHOOKbcSTROKEavGaw WITH ACUTEbcBREVEbcCARON",
    "bdEDILLAbdIRCUMFLEXbcDOT ABOVEbcHOOKbcMACRONbcOBLIQUE STROKEbcSTROKEawAMMAawHAawLOTTAL AbdI",
    "bdSTOPbdUavHaw WITH BREVE BELOWbcCARONbdEDILLAbdIRCUMFLEXbcDESCENDERbdIAERESISbdOT ABOVE",
    "bgBELOWbcHOOKbcSTROKEawALF HawENGawWAIRavIaw WITH ACUTEbcBREVEbcCARONbdIRCUMFLEXbcDIAERESIS",
    "bl AND ACUTEbdOT ABOVEbgBELOWbeUBLE GRAVEbcGRAVEbcHOOK ABOVEbcINVERTED BREVEbcMACRONbcOGONEK",
    "bcSTROKEbcTILDEbh BELOWawNSULAR DbdFbdGbdRbdSbdTawOTAawSavJaw WITH CIRCUMFLEXbdROSSED-TAIL",
    "bcSTROKEavKaw WITH ACUTEbcCARONbdEDILLAbcDESCENDERbdIAGONAL STROKEbdOT BELOWbcHOOK",
    "bcLINE BELOWbcOBLIQUE STROKEbcSTROKEbi AND DIAGONAL STROKEavLaw WITH ACUTEbcBARbdELTbcCARON",
    "bdEDILLAbdIRCUMFLEX BELOWbcDOT BELOWbl AND MACRONbeUBLE BARbcHIGH STROKEbcLINE BELOW",
    "bcMIDDLE DOTbjTILDEbcSMALL LETTER JbdTROKEawJavMaw WITH ACUTEbcDOT ABOVEbgBELOWbcHOOK",
    "awIDDLE SCOTS Sbb-WELSH LLbiVavNaw WITH ACUTEbcCARONbdEDILLAbdIRCUMFLEX BELOWbcDESCENDER",
    "bdOT ABOVEbgBELOWbcGRAVEbcLEFT HOOKbdINE BELOWbdONG RIGHT LEGbcOBLIQUE STROKE",
    "bcSMALL LETTER JbcTILDEawJavOaw WITH ACUTEbcBREVEbcCARONbdIRCUMFLEXbm AND ACUTEbrDOT BELOW",
    "brGRAVEbrHOOK ABOVEbrTILDEbcDIAERESISbl AND MACRONbdOT ABOVEbl AND MACRONbgBELOWbeUBLE ACUTE",
    "bjGRAVEbcGRAVEbcHOOK ABOVEbeRNbg AND ACUTEblDOT BELOWblGRAVEblHOOK ABOVEblTILDE",
    "bcINVERTED BREVEbcLONG STROKE OVERLAYbeOPbcMACRONbi AND ACUTEbnGRAVEbdIDDLE TILDEbcOGONEK",
    "bi AND MACRONbcSTROKEbi AND ACUTEbcTILDEbh AND ACUTEbmDIAERESISbmMACRONawIawLD POLISH O",
    "awMEGAawOawPEN EbaOawUavPaw WITH ACUTEbcDOT ABOVEbcFLOURISHbcHOOKbcSQUIRREL TAILbdTROKE",
    "bi THROUGH DESCENDERavQaw WITH DIAGONAL STROKEbcSTROKE THROUGH DESCENDERavRaw ROTUNDA",
    "axWITH ACUTEbcCARONbdEDILLAbcDOT ABOVEbgBELOWbl AND MACRONbeUBLE GRAVEbcINVERTED BREVE",
    "bcLINE BELOWbcOBLIQUE STROKEbcSTROKEbcTAILawEVERSED C WITH DOTbeEbeHALF HbeOPEN E",
    "awUM ROTUNDAavSaw WITH ACUTEbh AND DOT ABOVEbcCARONbh AND DOT ABOVEbdEDILLAbdIRCUMFLEX",
    "bdOMMA BELOWbcDOT ABOVEbgBELOWbl AND DOT ABOVEbcHOOKbcOBLIQUE STROKEbcSHORT STROKE OVERLAY",
    "bdWASH TAILawALTILLOawCHWAaxRIPT GawHARP SawIGMOID SawMALL CAPITAL IbbQ WITH HOOK TAILavT",
    "aw WITH CARONbdEDILLAbdIRCUMFLEX BELOWbdOMMA BELOWbcDIAGONAL STROKEbdOT ABOVEbgBELOWbcHOOK",
    "bcLINE BELOWbcRETROFLEX HOOKbcSTROKEawHORNba WITH STROKEbm THROUGH DESCENDERawONE FIVEbaSIX",
    "baTWOawRESILLOawURNED AbdLPHAbcHbcINSULAR GbcKbcLbcMbcTbcVawZavUaw BARaxWITH ACUTEbcBREVE",
    "bcCARONbdIRCUMFLEXbm BELOWbcDIAERESISbl AND ACUTEbqCARONbqGRAVEbqMACRONbmBELOWbdOT BELOW",
    "beUBLE ACUTEbjGRAVEbcGRAVEbcHOOK ABOVEbeRNbg AND ACUTEblDOT BELOWblGRAVEblHOOK ABOVEblTILDE",
    "bcINVERTED BREVEbcMACRONbi AND DIAERESISbcOGONEKbcRING ABOVEbcSTROKEbcTILDEbh AND ACUTE",
    "biBELOWawPSILONavVaw WITH DIAGONAL STROKEbdOT BELOWbcHOOKbcTILDEawENDawISIGOTHIC Z",
    "awOLAPUK AEbdOEbdUEawYavWaw WITH ACUTEbcCIRCUMFLEXbcDIAERESISbdOT ABOVEbgBELOWbcGRAVEbcHOOK",
    "awYNNavXaw WITH DIAERESISbdOT ABOVEavYaw WITH ACUTEbcCIRCUMFLEXbcDIAERESISbdOT ABOVEbgBELOW",
    "bcGRAVEbcHOOKbg ABOVEbcLOOPbcMACRONbcSTROKEbcTILDEawOGHavZaw WITH ACUTEbcCARONbdIRCUMFLEX",
    "bcDESCENDERbdOT ABOVEbgBELOWbcHOOKbcLINE BELOWbcPALATAL HOOKbcSTROKEbdWASH TAILapIGATURE IJ",
    "axOEahROSSagEPIGRAPHIC LETTER ARCHAIC MayI LONGAazNVERTED MayREVERSED FbhPaySIDEWAYS I",
    "agLETTER AINaoLVEOLAR CLICKanBIDENTAL PERCUSSIVEapLABIAL CLICKawPERCUSSIVEanDENTAL CLICK",
    "anGLOTTAL STOPaz WITH STROKEanINVERTED GLOTTAL STOPbi WITH CURLboSTROKEanLATERAL CLICK",
    "anPHARYNGEAL VOICED FRICATIVEanRETROFLEX CLICKbc WITH RETROFLEX HOOKapVERSED ESH LOOP",
    "awGLOTTAL STOP WITH STROKEanSINOLOGICAL DOTaoMALL CAPITAL AbcEbbBbcARRED BbbCbbDbbEbcTHbcZH",
    "bbFbbGbc WITH HOOKbbHbbIbcNVERTED RbbJbbKbbLbc WITH BELTbiSTROKEbbMbbNbbObcEbcPEN ObcUbbPbbQ",
    "bbRbc WITH RIGHT LEGbcEVERSED NbkRbcUMbbSbbTbcURNED EbiGbiKbiMbiRbbUbbVbbWbbYbbZaoTRETCHED C",
    "ay WITH CURLanTWO WITH STROKEanVOICED LARYNGEAL SPIRANTanWYNNanYR",
    "agSMALL CAPITAL LETTER I WITH STROKEbbU WITH STROKEamLETTER Aau REVERSED-SCHWAavWITH ACUTE",
    "baBREVEbf AND ACUTEbkDOT BELOWbkGRAVEbkHOOK ABOVEbkTILDEbaCARONbbIRCUMFLEXbk AND ACUTE",
    "bpDOT BELOWbpGRAVEbpHOOK ABOVEbpTILDEbaDIAERESISbj AND MACRONbbOT ABOVEbj AND MACRONbeBELOW",
    "bcUBLE GRAVEbaGRAVEbaHOOK ABOVEbaINVERTED BREVEbaMACRONbaOGONEKbaRETROFLEX HOOK",
    "bbIGHT HALF RINGbcNG ABOVEbk AND ACUTEbfBELOWbaSTROKEbaTILDEauAauEav WITH ACUTEbbMACRON",
    "auLPHAay WITH RETROFLEX HOOKauNGLICANA WauOauUauVav WITH HORIZONTAL BARauYatB",
    "au WITH DOT ABOVEbeBELOWbaFLOURISHbaHOOKbaLINE BELOWbaMIDDLE TILDEbaPALATAL HOOKbaSTROKE",
    "baTOPBARauARRED ALPHAbaEbaOavSELINE ESHauETAauLACKLETTER EbfObg WITH STROKEauOTTOM HALF O",
    "auROKEN LatCau WITH ACUTEbaBARbaCARONbbEDILLAbh AND ACUTEbbIRCUMFLEXbbURLbaDOT ABOVEbaHOOK",
    "baPALATAL HOOKbaRETROFLEX HOOKbaSTROKEauHIaw WITH LOW LEFT SERIFbgRIGHT RING",
    "auLOSED INSULAR GbaOMEGAbbPEN EbaREVERSED OPEN EauONauUATRILLObc WITH COMMAatDau WITH CARON",
    "bbEDILLAbbIRCUMFLEX BELOWbbURLbaDOT ABOVEbeBELOWbaHOOKbe AND TAILbaLINE BELOWbaMIDDLE TILDE",
    "baPALATAL HOOKbaSHORT STROKE OVERLAYbbTROKEbaTAILbbOPBARauB DIGRAPHauELTAavZH DIGRAPH",
    "bf WITH PALATAL HOOKblRETROFLEX HOOKauOTLESS IbbJbc WITH STROKEbo AND HOOKavUBLE R",
    "bb WITH CROSSED-TAILbaTHORNbaWYNNauUMauZav DIGRAPHbd WITH CURLbjRETROFLEX HOOKawWITH CARON",
    "atEau WITH ACUTEbaBREVEbaCARONbbEDILLAbh AND BREVEbbIRCUMFLEXbk AND ACUTEbpDOT BELOWbpGRAVE",
    "bpHOOK ABOVEbpTILDEblBELOWbaDIAERESISbbOT ABOVEbeBELOWbcUBLE GRAVEbaFLOURISHbaGRAVE",
    "baHOOK ABOVEbaINVERTED BREVEbaMACRONbg AND ACUTEblGRAVEbaNOTCHbaOGONEKbaRETROFLEX HOOK",
    "baSTROKEbaTILDEbf BELOWauGYPTOLOGICAL AINbiLEFauNGaw WITH CROSSED-TAILbcPALATAL HOOKauSH",
    "aw WITH CURLbcDOUBLE BARbm AND CURLbcPALATAL HOOKbcRETROFLEX HOOKauTavHauZHaw REVERSED",
    "axWITH CARONbdURLbcPALATAL HOOKbcRETROFLEX HOOKbcTAILatFau WITH DOT ABOVEbaHOOK",
    "baMIDDLE TILDEbaPALATAL HOOKbaSTROKEauENG DIGRAPHbf WITH TRILLatGau WITH ACUTEbaBREVEbaCARON",
    "bbEDILLAbbIRCUMFLEXbaDOT ABOVEbaHOOKbaMACRONbaOBLIQUE STROKEbaPALATAL HOOKbaSTROKEauAMMAauHA",
    "auLOTTAL AbbIbbSTOPbbUatHau WITH BREVE BELOWbaCARONbbEDILLAbbIRCUMFLEXbaDESCENDERbbIAERESIS",
    "bbOT ABOVEbeBELOWbaHOOKbaLINE BELOWbaPALATAL HOOKbaSTROKEauALF HauENGax WITH HOOKauVatI",
    "au WITH ACUTEbaBREVEbaCARONbbIRCUMFLEXbaDIAERESISbj AND ACUTEbbOT BELOWbcUBLE GRAVEbaGRAVE",
    "baHOOK ABOVEbaINVERTED BREVEbaMACRONbaOGONEKbaRETROFLEX HOOKbaSTROKEbg AND RETROFLEX HOOK",
    "baTILDEbf BELOWauNSULAR DbbFbbGbbRbbSbbTavVERTED ALPHAbcOEauOTAax WITH STROKEawIFIED EauSatJ",
    "au WITH CARONbbIRCUMFLEXbbROSSED-TAILbaSTROKEatKau WITH ACUTEbaCARONbbEDILLAbaDESCENDER",
    "bbIAGONAL STROKEbbOT BELOWbaHOOKbaLINE BELOWbaOBLIQUE STROKEbaPALATAL HOOKbaSTROKE",
    "bg AND DIAGONAL STROKEauRAatLau WITH ACUTEbaBARbbELTbe AND PALATAL HOOKbaCARONbbEDILLA",
    "bbIRCUMFLEX BELOWbbURLbaDOT BELOWbj AND MACRONbcUBLE BARbhMIDDLE TILDEbaFISHHOOK",
    "baHIGH STROKEbaINVERTED LAZY SbaLINE BELOWbaMIDDLE DOTbhRINGbhTILDEbaPALATAL HOOK",
    "baRETROFLEX HOOKbo AND BELTbaSTROKEauAMBDA WITH STROKEauENIS FavZHax WITH RETROFLEX HOOKauJ",
    "auONG Saz WITH DIAGONAL STROKEbgOT ABOVEbfHIGH STROKEauS DIGRAPHauUMauZ DIGRAPHatM",
    "au WITH ACUTEbaCROSSED-TAILbaDOT ABOVEbeBELOWbaHOOKbaMIDDLE TILDEbaPALATAL HOOK",
    "auIDDLE SCOTS Saz-WELSH LLbgVauUMatNau PRECEDED BY APOSTROPHEavWITH ACUTEbaCARONbbEDILLA",
    "bbIRCUMFLEX BELOWbbROSSED-TAILbbURLbaDESCENDERbbOT ABOVEbeBELOWbaGRAVEbaLEFT HOOKbbINE BELOW",
    "bbONG RIGHT LEGbaMIDDLE TILDEbaOBLIQUE STROKEbaPALATAL HOOKbaRETROFLEX HOOKbaTILDEauJauUMatO",
    "au WITH ACUTEbaBREVEbaCARONbbIRCUMFLEXbk AND ACUTEbpDOT BELOWbpGRAVEbpHOOK ABOVEbpTILDE",
    "baDIAERESISbj AND MACRONbbOT ABOVEbj AND MACRONbeBELOWbcUBLE ACUTEbhGRAVEbaGRAVEbaHOOK ABOVE",
    "bcRNbe AND ACUTEbjDOT BELOWbjGRAVEbjHOOK ABOVEbjTILDEbaINVERTED BREVEbaLONG STROKE OVERLAY",
    "bcOPbcW RING INSIDEbaMACRONbg AND ACUTEblGRAVEbaOGONEKbg AND MACRONbaRETROFLEX HOOKbaSTROKE",
    "bg AND ACUTEbaTILDEbf AND ACUTEbkDIAERESISbkMACRONauIauLD POLISH OauMEGAauOauPEN E",
    "az WITH RETROFLEX HOOKayOaz WITH RETROFLEX HOOKbfSTROKEazEauUatPau WITH ACUTEbaDOT ABOVE",
    "baFLOURISHbaHOOKbaMIDDLE TILDEbaPALATAL HOOKbaSQUIRREL TAILbbTROKEbg THROUGH DESCENDERauHI",
    "atQau WITH DIAGONAL STROKEbaHOOKbe TAILbaSTROKE THROUGH DESCENDERauP DIGRAPHatRau ROTUNDA",
    "avWITH ACUTEbaCARONbbEDILLAbbROSSED-TAILbaDOT ABOVEbeBELOWbj AND MACRONbcUBLE GRAVE",
    "baFISHHOOKbi AND MIDDLE TILDEbnPALATAL HOOKbaINVERTED BREVEbaLINE BELOWbbONG LEG",
    "baMIDDLE TILDEbaOBLIQUE STROKEbaPALATAL HOOKbaSTROKEbaTAILazOUT HANDLEauAMS HORNauEVERSED C",
    "bd WITH DOTbcEbdNGbcHALF HbcKbcOPEN Ebi WITH HOOKboRETROFLEX HOOKbcR WITH FISHHOOKbcSCRIPT G",
    "auUMaw ROTUNDAatSau WITH ACUTEbf AND DOT ABOVEbaCARONbf AND DOT ABOVEbbEDILLAbbIRCUMFLEX",
    "bbOMMA BELOWbbURLbaDOT ABOVEbeBELOWbj AND DOT ABOVEbaHOOKbaMIDDLE TILDEbaOBLIQUE STROKE",
    "baPALATAL HOOKbaSHORT STROKE OVERLAYbbWASH TAILauAKHA YATavLTILLOauCHWAay WITH HOOK",
    "beRETROFLEX HOOKavRIPT Gbb WITH CROSSED-TAILbaRbb WITH RINGauHARP SauIDEWAYS DIAERESIZED U",
    "bcObd WITH STROKEbdPEN ObcTURNED MbcUavGMOID SauQUAT REVERSED ESHauTIRRUP RatTau WITH CARON",
    "bbEDILLAbbIRCUMFLEX BELOWbbOMMA BELOWbbURLbaDIAERESISbdGONAL STROKEbbOT ABOVEbeBELOWbaHOOK",
    "be AND RETROFLEX HOOKbaLINE BELOWbaMIDDLE TILDEbaPALATAL HOOKbaRETROFLEX HOOKbaSTROKE",
    "auAILLESS PHIauC DIGRAPH WITH CURLauESH DIGRAPHbf WITH PALATAL HOOKblRETROFLEX HOOK",
    "auH WITH STRIKETHROUGHavORNay WITH STROKEbk THROUGH DESCENDERauONE FIVEaySIXayTWOavP HALF O",
    "auRESILLOauS DIGRAPHbd WITH RETROFLEX HOOKauUMavRNED AbbEbbLPHAbaDELTAbaEbaGbaH",
    "bb WITH FISHHOOKbp AND TAILbaIbbNSULAR GbaKbaLbaMbb WITH LONG LEGbaO OPEN-Obi WITH STROKEbbE",
    "bc WITH HORIZONTAL STROKEbiSTROKEbbPEN EbaRbb WITH HOOKbhLONG LEGbp AND RETROFLEX HOOK",
    "bhMIDDLE TILDEbhPALATAL HOOKbhTAILbaTbb WITH CURLbaUIbaVbaWbaYbb WITH BELTauZatUau BAR",
    "ay WITH SHORT RIGHT LEGavWITH ACUTEbaBREVEbaCARONbbIRCUMFLEXbk BELOWbaDIAERESISbj AND ACUTE",
    "boCARONboGRAVEboMACRONbkBELOWbbOT BELOWbcUBLE ACUTEbhGRAVEbaGRAVEbaHOOK ABOVEbcRN",
    "be AND ACUTEbjDOT BELOWbjGRAVEbjHOOK ABOVEbjTILDEbaINVERTED BREVEbaLEFT HOOKbaMACRON",
    "bg AND DIAERESISbaOGONEKbaRETROFLEX HOOKbbING ABOVEbaSHORT RIGHT LEGbbTROKEbaTILDE",
    "bf AND ACUTEbgBELOWauEauIauMauOauPSILONba WITH STROKEatVau WITH CURLbaDIAGONAL STROKE",
    "bbOT BELOWbaHOOKbaPALATAL HOOKbaRIGHT HOOKbaTILDEauENDauISIGOTHIC ZauOLAPUK AEbbOEbbUEauYatW",
    "au WITH ACUTEbaCIRCUMFLEXbaDIAERESISbbOT ABOVEbeBELOWbaGRAVEbaHOOKbaRING ABOVEatX",
    "au WITH DIAERESISbbOT ABOVEbaLONG LEFT LEGbn AND LOW RIGHT RINGboWITH SERIFbcW RIGHT RING",
    "baPALATAL HOOKatYau WITH ACUTEbaCIRCUMFLEXbaDIAERESISbbOT ABOVEbeBELOWbaGRAVEbaHOOKbe ABOVE",
    "baLOOPbaMACRONbaRING ABOVEbaSHORT RIGHT LEGbbTROKEbaTILDEauOGHatZau WITH ACUTEbaCARON",
    "bbIRCUMFLEXbbURLbaDESCENDERbbOT ABOVEbeBELOWbaHOOKbaLINE BELOWbaMIDDLE TILDEbaPALATAL HOOK",
    "baRETROFLEX HOOKbaSTROKEbbWASH TAILanIGATURE FFaxIaxLawIawLavIJavLONG S TavOEavST",
    "ahUBSCRIPT SMALL LETTER AbdEbdHbdIbdJbdKbdLbdMbdNbdObdPbdRbdSbeCHWAbdTbdUbdVbdX",
    "abEAF FLUTTERING IN WINDaeY GREENacDGER",
    "acFT AND LOWER AND RIGHT TRIANGULAR THREE QUARTERS BLOCKapONE EIGHTH BLOCK",
    "ajRIGHT DOUBLE TURNSTILEapTACKaqRIANGULAR HALF BLOCK",
    "ajUPPER AND RIGHT TRIANGULAR THREE QUARTERS BLOCKapONE EIGHTH BLOCKahGER BUBBLEaiLE BRACKET",
    "as WITH DOTagRC LESS-THAN BRACKETahROW WITH CIRCLED PLUSaqSMALL CIRCLE",
    "afBARB DOWN RIGHT BARB DOWN HARPOONbaUP HARPOONakUP RIGHT BARB DOWN HARPOONayUP HARPOON",
    "agLACK LENTICULAR BRACKETalTORTOISE SHELL BRACKETafCEILINGagLOSED ENTRYagORNER BRACKET",
    "agURLY BRACKETas LOWER HOOKatMIDDLE PIECEatUPPER HOOKafDOTTED SUBSTITUTION BRACKET",
    "ahUBLE ANGLE BRACKETamPARENTHESISamQUOTATION MARKamWIGGLY FENCEafFISH TAILahVE EIGHTHS BLOCK",
    "agLOORafHALF BLACK CIRCLEaqSTARamOCKakCIRCLEaq WITH DOTawFOUR DOTSawTHREE DOTSaxWO DOTS",
    "akFOLDERakINVERSE MEDIUM SHADE AND RIGHT HALF BLOCKakMEDIUM SHADEakRUNNING MAN",
    "ahND TELEPHONE RECEIVERafLOW PARAPHRASE BRACKETagUGGAGEafMULTIMAP",
    "afNORMAL FACTOR SEMIDIRECT PRODUCTafONE EIGHTH BLOCKajQUARTER BLOCKagUTER JOINafPARENTHESIS",
    "aq EXTENSIONarLOWER HOOKarUPPER HOOKafRAISED OMISSION BRACKETagIGHT ARROW",
    "aq THROUGH SMALL CIRCLEarWITH DOUBLE VERTICAL STROKEawSTROKEawVERTICAL STROKEalBLACK ARROW",
    "alDOUBLE ARROWax WITH STROKEbdVERTICAL STROKEalOPEN-HEADED ARROWalSANS-SERIF ARROW",
    "alTRIANGLE-HEADED ARROWalWAVE ARROWamHITE ARROWafS-SHAPED BAG DELIMITERagEMIDIRECT PRODUCT",
    "ahVEN EIGHTHS BLOCKagIDEWAYS U BRACKETahNGLE QUOTATION MARKagPEECH BUBBLEagQUARE BRACKET",
    "at EXTENSIONauLOWER CORNERauUPPER CORNERauWITH DOUBLE STROKEazQUILLazSTROKE",
    "azTICK IN BOTTOM CORNERbhTOP CORNERazUNDERBARagUBSTITUTION BRACKETafTACK",
    "agHIRD WHITE RIGHT POINTING INDEXahOUGHT BUBBLEahREE EIGHTHS BLOCKalQUARTERS BLOCK",
    "agORTOISE SHELL BRACKETagRANSPOSITION BRACKETahIANGLE BESIDE VERTICAL BAR",
    "alULAR ONE QUARTER BLOCKafVERTICAL BAR WITH QUILLapOX LINEafWHITE CORNER BRACKET",
    "amURLY BRACKETalLENTICULAR BRACKETalPARENTHESISalSQUARE BRACKETalTORTOISE SHELL BRACKET",
    "agIGGLY FENCEagRITING HANDae-FACING ARMENIAN ETERNITY SIGNamFISTamSVASTI SIGNax WITH DOTS",
    "afHANDED INTERLACED PENTAGRAMafPOINTING ANGLE BRACKETaoCURVED ANGLE BRACKET",
    "aoDOUBLE ANGLE QUOTATION MARKaoMAGNIFYING GLASSafSHADED WHITE RIGHTWARDS ARROW",
    "agIDE ARC ANTICLOCKWISE ARROWafTO-RIGHT EMBEDDINGaoISOLATEaoMARKaoOVERRIDEaeWARDS ARROW",
    "ap ABOVE ALMOST EQUAL TOawREVERSE ALMOST EQUAL TObeTILDE OPERATORawSHORT RIGHTWARDS ARROW",
    "awTILDE OPERATORarND UPPER AND LOWER ONE EIGHTH BLOCKaqFROM BARay TO BLACK DIAMOND",
    "aqOVER RIGHTWARDS ARROWaqTHROUGH LESS-THANaySUBSETayXarO BARaw OVER RIGHTWARDS ARROW TO BAR",
    "auLACK DIAMONDaqWITH DOTTED STEMaxUBLE VERTICAL STROKEavEQUILATERAL ARROWHEADavHOOK",
    "avLARGE TRIANGLE ARROWHEADawOOPavMEDIUM TRIANGLE ARROWHEADavNOTCHED TAILavPLUS BELOW",
    "avSMALL EQUILATERAL ARROWHEADbbTRIANGLE ARROWHEADawTROKEavTAILaz WITH DOUBLE VERTICAL STROKE",
    "bfVERTICAL STROKEawIP DOWNWARDSazUPWARDSavVERTICAL STROKEap-TAIL",
    "akBACK-TILTED SHADOWED WHITE ARROWalLACK ARROWaqCIRCLED WHITE ARROW",
    "alOTTOM-SHADED WHITE ARROWakCOMPRESSED ARROWakDASHED ARROWalOUBLE ARROWaw FROM BAR",
    "axWITH STROKEbcVERTICAL STROKEaw-TAILarDASH ARROWakFINGER-POST ARROW",
    "alRONT-TILTED SHADOWED WHITE ARROWakHANDamRPOON OVER RIGHTWARDS HARPOON",
    "asWITH BARB DOWN ABOVE RIGHTWARDS HARPOON WITH BARB DOWNbhBELOW LONG DASHbhFROM BARbhTO BAR",
    "bgWARDSbcUP ABOVE LEFTWARDS HARPOON WITH BARB DOWNbmONG DASH",
    "blRIGHTWARDS HARPOON WITH BARB UPbfFROM BARbfTO BARbeWARDSalEAVY ARROWaqCOMPRESSED ARROW",
    "akLEFT-SHADED WHITE ARROWakOPEN-HEADED ARROWakPAIRED ARROWSakQUADRUPLE ARROW",
    "akRIGHT-SHADED WHITE ARROWalOCKETakSANS-SERIF ARROWalQUARED ARROWanIGGLE ARROW",
    "akTOP SHADED WHITE ARROWalRIANGLE ARROWHEADas-HEADED ARROW",
    "bf OVER RIGHTWARDS TRIANGLE-HEADED ARROWbgTO BARbgWITH BOLD SHAFTblDOUBLE HORIZONTAL STROKE",
    "bsVERTICAL STROKEblHEAVY SHAFTblLONG TIP DOWNWARDSbuUPWARDSblMEDIUM SHAFTblNARROW SHAFT",
    "blVERY HEAVY SHAFTbaDASHED ARROWbaPAIRED ARROWSanPLE ARROWarDASH ARROWalWO HEADED ARROW",
    "an-HEADED ARROW FROM BARbbWITH DOUBLE VERTICAL STROKEbgTAILbk WITH DOUBLE VERTICAL STROKE",
    "bqVERTICAL STROKEbhRIANGLE ARROWHEADSbgVERTICAL STROKEavTRIPLE DASH ARROWakWAVE ARROW",
    "alHITE ARROWav WITHIN TRIANGLE ARROWHEADacGacMONacOadPARDacPCHA CONSONANT SIGN KaxANGawLawM",
    "awNaxYIN-DOawPawRawTahDIGIT EIGHTanFIVEaoOURanNINEanONEanSEVENaoIXanTHREEaoWOanZERO",
    "ahLETTER AaoBAapLAaoCAapHAaoDAapDAapZAaoFAapLAaoGAapLAaoHAapLAaoJAaoKAapHAapLAaoLAaoMAapLA",
    "aoNAapGAapYAaoPAapHAapLAaoRAaoSAapHAaoTAapHAapSAaqHAapTAaqHAaoVAaoWAaoYAahPUNCTUATION CER-WA",
    "atNYET THYOOM TA-ROLatTA-ROLauSHOOKaz CER-WAahSIGN NUKTAamRANaiUBJOINED LETTER RAayYA",
    "ahVOWEL SIGN AAasEasIasOatOasUatUacSS-THAN ABOVE DOUBLE-LINE EQUAL ABOVE GREATER-THAN",
    "aqGREATER-THAN ABOVE DOUBLE-LINE EQUALaqLEFTWARDS ARROWaqSIMILAR ABOVE GREATER-THAN",
    "ayOR EQUALarLANTED EQUAL ABOVE GREATER-THAN ABOVE SLANTED EQUALalND NOT APPROXIMATE",
    "aoSINGLE-LINE NOT EQUAL TOakBUT NOT EQUAL TOavIVALENT TOakCLOSED BY CURVE",
    "az ABOVE SLANTED EQUALakEQUAL TO OR GREATER-THANakOR APPROXIMATEanEQUAL TOaqIVALENT TO",
    "anGREATER-THANanSLANTED EQUAL TObd WITH DOT ABOVEbs RIGHTbnINSIDEalVER EQUAL TOakSIGN",
    "akWITH CIRCLE INSIDEapDOTapQUESTION MARK ABOVEacVEL SLIDERabFabIBRAacGATURE OPEN ET ORNAMENT",
    "adHT CHECK MARKagEIGHT SPOKED ASTERISKagFIVE POINTED BLACK STARalSPOKED ASTERISK",
    "ahOUR POINTED BLACK CUSPazSTARagGREEK CROSSagLEFT TORTOISE SHELL BRACKET ORNAMENTagRAIL",
    "ahIGHT TORTOISE SHELL BRACKET ORNAMENTagSALTIREahHADEahIX SPOKED ASTERISK",
    "agTHREE POINTED BLACK STARahWELVE POINTED BLACK STARagVERTICAL BARagWHITE SQUAREafNING",
    "aj MOODao BUBBLEacMBU DIGIT EIGHTamFIVEanOURamNINEamONEamSEVENanIXamTHREEanWOamZERO",
    "agEXCLAMATION MARKagLETTER BAaoHAanCAaoHAanDAaoHAanGAaoHAaoYANanHAanJAaoHAanKAaoHAanLAanMA",
    "anNAaoGAanPAaoHAanRAanSAaoHAaoSAanTAaoHAaoRAanWAanYAapNagQUESTION MARKagSIGN KEMPHRENGalLOO",
    "alMUKPHRENGalSA-IahMALL LETTER ANUSVARAatKAatLAatMAatNAauGAatPAatRAatTAahUBJOINED LETTER RA",
    "axWAaxYAagVOWEL SIGN AasIasUarEasEarIarOasOarUal-CARRIER LETTERadITED LIABILITY SIGN",
    "acNE FEEDafINTEGRATION NOT INCLUDING THE POLEarWITH RECTANGULAR PATH AROUND POLE",
    "awSEMICIRCULAR PATH AROUND POLEafSEPARATORafTABULATIONap SETaeAR A SIGN A028Bap100-102aq20B",
    "aq31Cap301ar2ar3ar4ar5ar6ar7ar8ar9AasBasCaq10ar1ar2ar3AasBasCar4ar5ar6ar7ar8ar9aq20ar1ar2ar3",
    "ar4ar5ar6ar7ar8ar9aq30ar1ar2ar3ar4ar5ar6ar7ar8ar9aq40ar1ar2ar3ar4ar5ar6ar7ar8ar9aq50ar1ar2",
    "ar3ar4ar5ar6ar7ar8ar9aq60ar1ar2ar3ar4ar5ar6ar7ar8ar9aq70ar1ap400-VASar1-VASar2-VASar3-VAS",
    "ar4-VASar5-VASar6-VASar7-VASar8-VASar9-VASaq10-VASar1-VASar2-VASar3-VASar4-VASar5-VASar6-VAS",
    "ar7-VASar8-VASap501ar2ar3ar4ar5ar6ar8ar9aq10ar1ar2ar3ar5ar6aq20ar1ar3ar4ar5ar6ar7ar8ar9aq30",
    "ar1ar2ar4ar5ar6ar7ar8ar9aq40ar1ar2ar5ar7ar8ar9aq50ar1ar2ar3ar4ar5ar6ar7ar9aq63ar4ar5ar6ar8",
    "ar9aq70ar1ar2ar3ar4ar5ar6ar7ar8ar9aq80ar1ar2ar3ar4ar5ar6ar7ar8ar9aq91ar2ar4ar5ar6ar8ap600ar1",
    "ar2ar3ar4ar6ar8ar9aq10ar1ar2ar3ar4ar5ar6ar7ar8ar9aq20ar1ar2ar3ar4ar6ar7ar8ar9aq34ar7ar8aq40",
    "ar2ar3ar4ar5ar6ar8ar9aq51ar2ar3ar4ar5ar6ar7ar8ar9aq60ar1ar2ar3ar4ap701 Aar2 Bar3 Dar4 Ear5 F",
    "ar6 Har7 Jar8 Kar9 Las-2 L2at3 L3at4 L4at6 L6aq10 War1 Xar2 Yar3 OMEGAar4 ABBar5 BBar7 DD",
    "aq26 EYYYaq32 JEap800ar1ar2ar3ar4ar5ar6ar7apB001as2as3as4as5as6as7as8as9ar10as1as3as6as7ar20",
    "as1atFatMas2atFatMas3atMas4as6as7as8as9ar30as1as4as7as8as9ar40as1as4as5as6as7as8as9ar50as1",
    "as3as4as5as6as7as8as9ar60as1as5as6as7as9ar70as3as4as6as7as8as9ar80as1as2as5as6as7aq118ar20",
    "as2as3ar31AatBar64ar71ar80as8ar91ahB IDEOGRAM B100 MANav2 WOMANav4 DEERav5 EQUIDawF MARE",
    "awM STALLIONav6F EWEawM RAMav7F SHE-GOATawM HE-GOATav8F SOWawM BOARav9F COWawM BULL",
    "au20 WHEATav1 BARLEYav2 OLIVEav3 SPICEav5 CYPERUSau30 OILav1 WINEav2au40 BRONZEav1 GOLDav2",
    "av5 WOOLav6au50av1 HORNav2av3av4av7av8av9 CLOTHau60av1av2 GARMENTav3 ARMOURav4av5av6av7av8",
    "av9au70av1av2av3 MONTHav4av6 TREEav7av8av9au80av1av2av3av4av5av9au90av1 HELMET",
    "at220 FOOTSTOOLav5 BATHTUBau30 SPEARav1 ARROWav2av3 SWORDav4av6au40 WHEELED CHARIOT",
    "av1 CHARIOTav2 CHARIOT FRAMEav3 WHEELav5av6av8av9au51av2av3av4 DARTav5av6av7av8av9",
    "asVESSEL B155ba200bc1bc2bc3bc4bc5bc6bc7bc8bc9bb10bc1bc2bc3bc4bc5bc6bc7bc8bc9bb21bc2bc6bc7bc8",
    "bc9bb50ba305ajMONOGRAM B127 KAPOav8 KANAKOau33 AREPAav5 MERIau56 TURO2at247 DIPTE",
    "ajSYLLABLE B001 DAav2 ROav3 PAav4 TEav5 TOav6 NAav7 DIav8 Aav9 SEau10 Uav1 POav2 SOav3 ME",
    "av4 DOav5 MOav6 QAav7 ZAau20 ZOav1 QIav3 MUav4 NEav5 A2av6 RUav7 REav8 Iav9 PU2au30 NIav1 SA",
    "av2 QOav3 RA3av6 JOav7 TIav8 Eav9 PIau40 WIav1 SIav2 WOav3 A3av4 KEav5 DEav6 JEav8 NWA",
    "au50 PUav1 DUav2 NOav3 RIav4 WAav5 NUav7 JAav8 SUav9 TAau60 RAav1 Oav2 PTEav5 JUav6 TA2",
    "av7 KIav8 RO2av9 TUau70 KOav1 DWEav2 PEav3 MIav4 ZEav5 WEav6 RA2av7 KAav8 QEau80 MAav1 KU",
    "av5 AUav7 TWEau90 DWOav1 TWOalMBOL B018at9as22as34as47at9as56as63at4as79as82at3at6at9",
    "adK SYMBOLaeED PAPERCLIPSacON FACEacPSaeTICKacRA SIGNacSU LETTER AanEamBAamCAanHAamDAanZAamE",
    "anUamFAamGAanHAamHAanHAamIamJAamKAanHAamLAamMAamNAanGAamOanEamPAanHAamSAanHAamTAanHA",
    "anONE MYA BOavCYAavJEUavNAavTIarNA POanSAaoHAamUanEanHamWAamXAamYAanHAamZAanHA",
    "afPUNCTUATION COMMAarFULL STOPacVRE TOURNOIS SIGNacZARDabLAMAabOBSTERacCKae WITH INK PEN",
    "aeING-SHIFT ONEaoZEROacGICAL ANDal WITH DOT ABOVEatUBLE OVERBARayUNDERBARarHORIZONTAL DASH",
    "arMIDDLE STEMarUNDERBARaiORak OVERLAPPING LOGICAL ANDalWITH DOT ABOVEasUBLE OVERBAR",
    "axUNDERBARaqHORIZONTAL DASHaqMIDDLE STEMacLLIPOP",
    "acNG DASH FROM LEFT MEMBER OF DOUBLE VERTICALagIVISIONagRUMafLEFT RIGHT ARROWaqDOUBLE ARROW",
    "akTACKajWARDS ARROWau FROM BARapDOUBLE ARROWbb FROM BARapSQUIGGLE ARROWafRIGHT TACK",
    "akWARDS ARROWav FROM BARaqDOUBLE ARROWbc FROM BARaqSQUIGGLE ARROWacTION BOTTLEadUS",
    "acUDLY CRYING FACEacVE HOTELafLETTERacW ASTERISKaeBATTERYafRIGHTNESS SYMBOL",
    "aeDOUBLE PRIME QUOTATION MARKaeKAVYKAak WITH DOTaeLINEadER BLADE SCISSORS",
    "agFIVE EIGHTHS BLOCKagHALF BLOCKalCIRCLEalINVERSE WHITE CIRCLEalMEDIUM SHADE",
    "agLEFT BALLPOINT PENamLOCK DIAGONAL LOWER MIDDLE LEFT TO LOWER CENTREcbRIGHT",
    "baUPPER CENTRE TO LOWER MIDDLE RIGHTbwRIGHTbqUPPER MIDDLE RIGHTbgLEFT TO LOWER CENTRE",
    "buMIDDLE RIGHTboUPPER MIDDLE RIGHTbgMIDDLE LEFT TO LOWER CENTREcbMIDDLE RIGHTcbRIGHTalCRAYON",
    "alFOUNTAIN PENalPAINTBRUSHamENCILalQUADRANT CIRCULAR ARCalSEMICIRCULAR ANTICLOCKWISE ARROW",
    "alTRIANGLEarULAR MEDIUM SHADEagONE EIGHTH BLOCKakQUARTER BLOCK",
    "agRIGHT BLOCK DIAGONAL LOWER CENTRE TO LOWER MIDDLE RIGHTbrUPPER MIDDLE RIGHTbxRIGHT",
    "bhLEFT TO LOWER MIDDLE RIGHTbpUPPER CENTREbvMIDDLE RIGHTbhMIDDLE LEFT TO UPPER CENTRE",
    "ccMIDDLE RIGHTccRIGHTbbUPPER MIDDLE LEFT TO UPPER CENTREccRIGHTamCORNER WITH DOT",
    "amDROP-SHADOWED WHITE SQUAREamPENCILamQUADRANT CIRCULAR ARCamSEMICIRCULAR CLOCKWISE ARROW",
    "anHADOWED WHITE CIRCLEbbSQUAREamTRIANGLEasULAR MEDIUM SHADEagSEVEN EIGHTHS BLOCK",
    "agTHREE EIGHTHS BLOCKamQUARTERS BLOCKahRIANGULAR ONE QUARTER BLOCKacZENGE",
    "ah DIVIDED BY HORIZONTAL RULEabREacIacMacOabUGGAGEacNGSabYCIAN LETTER AapNaoBapHaoDaoEapNaoG",
    "aoHaoIaoJaoKapKaoLaoMapMaoNapNaoPaoQaoRaoSaoTapHapTaoUaoWaoXaoZacDIAN LETTER AapNaoBaoCaoD",
    "aoEapNaoFaoGaoIaoKaoLapYaoMaoNapNaoOaoQaoRaoSapSaoTapTaoUaoVaoYahTRIANGULAR MARKacING FACE"]

/-- The names that begin with M. -/
def listM : List String :=
  ["aaMACRONacGEadIC WANDadNETacHAJANI ABBREVIATION SIGNajLETTER AaqBAarHAaqCAarHAaqDAarDAasHA",
    "arHAaqEaqGAarHAaqHAaqIaqJAarHAaqKAarHAaqLAaqMAaqNAarNAarYAaqOaqPAarHAaqRAarRAaqSAaqTAarHA",
    "arTAasHAaqUaqVAakIGATURE SHRIajSECTION MARKakIGN NUKTAadJONG TILE AUTUMNanBACKapMBOO",
    "anCHRYSANTHEMUManEAST WINDaoIGHT OF BAMBOOSawCHARACTERSaxIRCLESanFIVE OF BAMBOOSavCHARACTERS",
    "awIRCLESaoOUR OF BAMBOOSavCHARACTERSawIRCLESanGREEN DRAGONanJOKERanNINE OF BAMBOOS",
    "avCHARACTERSawIRCLESaoORTH WINDanONE OF BAMBOOSauCHARACTERSavIRCLESaoRCHIDanPLUManRED DRAGON",
    "anSEVEN OF BAMBOOSawCHARACTERSaxIRCLESaoIX OF BAMBOOSauCHARACTERSavIRCLESaoOUTH WINDaoPRING",
    "aoUMMERanTHREE OF BAMBOOSawCHARACTERSaxIRCLESaoWO OF BAMBOOSauCHARACTERSavIRCLESanWEST WIND",
    "aoHITE DRAGONaoINTERacKASAR ANGKAaiEND OF SECTIONaiLETTER AapBAapCAapDAapGAapJAapKAapLAapMA",
    "apNAaqGAaqYAapPAapRAapSAapTAapVAapYAaiPASSIMBANGaiVOWEL SIGN EatIatOatU",
    "acLAYALAM AU LENGTH MARKakDATE MARKalIGIT EIGHTaqFIVEarOURaqNINEaqONEaqSEVENarIXaqTHREEarWO",
    "aqZEROakFRACTION ONE EIGHTHaxFIFTHayORTIETHaxHALFaxONE-HUNDRED-AND-SIXTIETHaxQUARTER",
    "axSIXTEENTHaxTENTHayWENTIETHatTHREE EIGHTIETHSazQUARTERSazSIXTEENTHSazTWENTIETHSakLETTER A",
    "asAasIasRCHAIC IIasUarBAasHAarCAasHAatILLU KayLazLbaLayMayNazNayRRayYarDAasDAatHAasHA",
    "asOT REPHarEasEarGAasHAarHAarIasIarJAasHAarKAasHAarLAasLAatLAarMAarNAasGAasNAatNAasYAarOasO",
    "arPAasHAarRAasRAarSAasHAasSAarTAasHAasTAatHAatTAarUasUarVAasEDIC ANUSVARAasOCALIC LbaLazRbaR",
    "arYAakNUMBER ONE HUNDREDavTHOUSANDarTENakSIGN ANUSVARAaqVAGRAHAapCANDRABINDUaqIRCULAR VIRAMA",
    "aqOMBINING ANUSVARA ABOVEapPARAapVERTICAL BAR VIRAMAaqIRAMAarSARGAakVOWEL SIGN AAawIawUavE",
    "awEavIawIavOawOavUawUavVOCALIC LbeLbdRbeRadE AND FEMALE SIGNafSIGN",
    "afWITH STROKE AND MALE AND FEMALE SIGNarSIGNadTESE CROSSacMMOTHacNad AND WOMAN HOLDING HANDS",
    "aeDANCINGaeIN BUSINESS SUIT LEVITATINGahTUXEDOaeWITH GUA PI MAOajTURBANadAT SIGN",
    "adDAIC AFFRICATION MARKaiGEMINATION MARKaiLETTER ABaqDaqGaqHaqINaqKarSAaqLaqMaqNaqPaqQaqRaqS",
    "arHarZaqTarTaqZapDUSHENNAapHALQAapINaqTapKADapUSHENNAaiPUNCTUATIONaiVOCALIZATION MARKadGO",
    "adICHAEAN ABBREVIATION MARK ABOVEbdBELOWalLETTER AAYINatLEPHatYINasBETHatHETHasDALETH",
    "atHAMEDHasFEasGHIMELatIMELasHEauTHasJAYINatHAYINasKAPHatHAPHasLAMEDHasMEMasNUNasPEasQHOPH",
    "atOPHasRESHasSADHEauMEKHatHINatSHINasTAWatETHatHAMEDHasWAWasXAPHatOPHasYODHasZAYINatHAYIN",
    "alNUMBER FIVEasONEav HUNDREDasTENatWENTYalPUNCTUATION DOTba WITHIN DOTazUBLE DOT WITHIN DOT",
    "axFLEURONaxLINE FILLERaxSTARaxTWO DOTSalSIGN UDadS SHOEadTELPIECE CLOCKadUAL WHEELCHAIR",
    "acP SYMBOL FOR LIGHTHOUSEadLE LEAFacRCHEN HEAD MARKaiLETTER -AapAapBAapCAaqHAapDAaqZAapGA",
    "apHAapJAapKAaqHAapLAapMAapNAaqGAaqYAapPAaqHAapRAapSAaqHAapTAaqHAaqSAarHAapWAapYAapZAaqHA",
    "aiMARK SHADaiSIGN ANUSVARAanCANDRABINDUajUBJOINED LETTER AazBAazCAbaHAazDAbaZAazGAazHAazJA",
    "azKAbaHAazLAazMAazNAbaGAbaYAazPAbaHAazRAazSAbaHAazTAbaHAbaSAbbHAazWAazYAazZAbaHA",
    "aiVOWEL SIGN AAatEatIatOatUadRIAGE SYMBOLadTIAL ARTS UNIFORMacSARAM GONDI DIGIT EIGHTauFIVE",
    "avOURauNINEauONEauSEVENavIXauTHREEavWOauZEROaoLETTER AawAawIawUavBAawHAavCAawHAavDAawDAaxHA",
    "awHAavEavGAawHAavHAavIawIavJAawHAawNYAavKAawHAawSSAavLAawLAavMAavNAawGAawNAawYAavOavPAawHA",
    "avRAavSAawHAawSAavTAawHAawRAawTAaxHAavUawUavVAavYAaoRA-KARAapEPHAaoSIGN ANUSVARAatCANDRA",
    "atHALANTAatNUKTAatVISARGAaoVIRAMAapOWEL SIGN AAbaIbaUazEazIbaIazOazUbaUazVOCALIC R",
    "adCULINE ORDINAL INDICATORadK WORK SYMBOLadU MARKacTE DRINKadHEMATICAL BOLD CAPITAL AbbLPHA",
    "baBbbETAbaCbbHIbaDbbELTAbbIGAMMAbaEbbPSILONbbTAbaFbaGbbAMMAbaHbaIbbOTAbaJbaKbbAPPAbaLbbAMDA",
    "baMbbUbaNbbUbaObbMEGAbcICRONbaPbbHIbbIbbSIbaQbaRbbHObaSbbIGMAbaTbbAUbbHETAbf SYMBOLbaU",
    "bbPSILONbaVbaWbaXbbIbaYbaZbbETAasDIGIT EIGHTayFIVEazOURayNINEayONEaySEVENazIXayTHREEazWO",
    "ayZEROasEPSILON SYMBOLasFRAKTUR CAPITAL AbiBbiCbiDbiEbiFbiGbiHbiIbiJbiKbiLbiMbiNbiObiPbiQbiR",
    "biSbiTbiUbiVbiWbiXbiYbiZbaSMALL AbgBbgCbgDbgEbgFbgGbgHbgIbgJbgKbgLbgMbgNbgObgPbgQbgRbgSbgT",
    "bgUbgVbgWbgXbgYbgZasITALIC CAPITAL AbiLPHAbhBbiETAbhCbiHIbhDbiELTAbhEbiPSILONbiTAbhFbhG",
    "biAMMAbhHbhIbiOTAbhJbhKbiAPPAbhLbiAMDAbhMbiUbhNbiUbhObiMEGAbjICRONbhPbiHIbiIbiSIbhQbhRbiHO",
    "bhSbiIGMAbhTbiAUbiHETAbm SYMBOLbhUbiPSILONbhVbhWbhXbiIbhYbhZbiETAazEPSILON SYMBOL",
    "azKAPPA SYMBOLazNABLAazPARTIAL DIFFERENTIALbaHI SYMBOLbaI SYMBOLazRHO SYMBOLazSMALL AbgLPHA",
    "bfBbgETAbfCbgHIbfDbgELTAbfEbgPSILONbgTAbfFbgINAL SIGMAbfGbgAMMAbfHbfIbgOTAbfJbfKbgAPPAbfL",
    "bgAMDAbfMbgUbfNbgUbfObgMEGAbhICRONbfPbgHIbgIbgSIbfQbfRbgHObfSbgIGMAbfTbgAUbgHETAbfUbgPSILON",
    "bfVbfWbfXbgIbfYbfZbgETAazTHETA SYMBOLasKAPPA SYMBOLasNABLAasPARTIAL DIFFERENTIALatHI SYMBOL",
    "atI SYMBOLasRHO SYMBOLasSCRIPT CAPITAL AbhBbhCbhDbhEbhFbhGbhHbhIbhJbhKbhLbhMbhNbhObhPbhQbhR",
    "bhSbhTbhUbhVbhWbhXbhYbhZazSMALL AbfBbfCbfDbfEbfFbfGbfHbfIbfJbfKbfLbfMbfNbfObfPbfQbfRbfSbfT",
    "bfUbfVbfWbfXbfYbfZatMALL AazLPHAayBazETAayCazHIayDazELTAazIGAMMAayEazPSILONazTAayF",
    "azINAL SIGMAayGazAMMAayHayIazOTAayJayKazAPPAayLazAMDAayMazUayNazUayOazMEGAbaICRONayPazHIazI",
    "azSIayQayRazHOaySazIGMAayTazAUazHETAayUazPSILONayVayWayXazIayYayZazETAasTHETA SYMBOL",
    "anDOUBLE-STRUCK CAPITAL AbjBbjDbjEbjFbjGbjIbjJbjKbjLbjMbjObjSbjTbjUbjVbjWbjXbjYbbDIGIT EIGHT",
    "bhFIVEbiOURbhNINEbhONEbhSEVENbiIXbhTHREEbiWObhZERObbSMALL AbhBbhCbhDbhEbhFbhGbhHbhIbhJbhKbhL",
    "bhMbhNbhObhPbhQbhRbhSbhTbhUbhVbhWbhXbhYbhZanFALLING DIAGONALaoRAKTUR CAPITAL AbdBbdDbdEbdF",
    "bdGbdJbdKbdLbdMbdNbdObdPbdQbdSbdTbdUbdVbdWbdXbdYavSMALL AbbBbbCbbDbbEbbFbbGbbHbbIbbJbbKbbL",
    "bbMbbNbbObbPbbQbbRbbSbbTbbUbbVbbWbbXbbYbbZanITALIC CAPITAL AbdLPHAbcBbdETAbcCbdHIbcDbdELTA",
    "bcEbdPSILONbdTAbcFbcGbdAMMAbcHbcIbdOTAbcJbcKbdAPPAbcLbdAMDAbcMbdUbcNbdUbcObdMEGAbeICRONbcP",
    "bdHIbdIbdSIbcQbcRbdHObcSbdIGMAbcTbdAUbdHETAbh SYMBOLbcUbdPSILONbcVbcWbcXbdIbcYbcZbdETA",
    "auEPSILON SYMBOLauKAPPA SYMBOLauNABLAauPARTIAL DIFFERENTIALavHI SYMBOLavI SYMBOLauRHO SYMBOL",
    "auSMALL AbbLPHAbaBbbETAbaCbbHIbaDbbELTAbbOTLESS IbiJbaEbbPSILONbbTAbaFbbINAL SIGMAbaGbbAMMA",
    "baIbbOTAbaJbaKbbAPPAbaLbbAMDAbaMbbUbaNbbUbaObbMEGAbcICRONbaPbbHIbbIbbSIbaQbaRbbHObaSbbIGMA",
    "baTbbAUbbHETAbaUbbPSILONbaVbaWbaXbbIbaYbaZbbETAauTHETA SYMBOLanLEFT ANGLE BRACKET",
    "asDOUBLE ANGLE BRACKETasFLATTENED PARENTHESISasWHITE SQUARE BRACKETayTORTOISE SHELL BRACKET",
    "anMONOSPACE CAPITAL AbfBbfCbfDbfEbfFbfGbfHbfIbfJbfKbfLbfMbfNbfObfPbfQbfRbfSbfTbfUbfVbfWbfX",
    "bfYbfZaxDIGIT EIGHTbdFIVEbeOURbdNINEbdONEbdSEVENbeIXbdTHREEbeWObdZEROaxSMALL AbdBbdCbdDbdE",
    "bdFbdGbdHbdIbdJbdKbdLbdMbdNbdObdPbdQbdRbdSbdTbdUbdVbdWbdXbdYbdZanRIGHT ANGLE BRACKET",
    "atDOUBLE ANGLE BRACKETatFLATTENED PARENTHESISatWHITE SQUARE BRACKETazTORTOISE SHELL BRACKET",
    "apSING DIAGONALanSANS-SERIF BOLD CAPITAL AbmLPHAblBbmETAblCbmHIblDbmELTAblEbmPSILONbmTAblF",
    "blGbmAMMAblHblIbmOTAblJblKbmAPPAblLbmAMDAblMbmUblNbmUblObmMEGAbnICRONblPbmHIbmIbmSIblQblR",
    "bmHOblSbmIGMAblTbmAUbmHETAbq SYMBOLblUbmPSILONblVblWblXbmIblYblZbmETAbdDIGIT EIGHTbjFIVE",
    "bkOURbjNINEbjONEbjSEVENbkIXbjTHREEbkWObjZERObdEPSILON SYMBOLbdITALIC CAPITAL AbtLPHAbsBbtETA",
    "bsCbtHIbsDbtELTAbsEbtPSILONbtTAbsFbsGbtAMMAbsHbsIbtOTAbsJbsKbtAPPAbsLbtAMDAbsMbtUbsNbtUbsO",
    "btMEGAbuICRONbsPbtHIbtIbtSIbsQbsRbtHObsSbtIGMAbsTbtAUbtHETAbx SYMBOLbsUbtPSILONbsVbsWbsXbtI",
    "bsYbsZbtETAbkEPSILON SYMBOLbkKAPPA SYMBOLbkNABLAbkPARTIAL DIFFERENTIALblHI SYMBOLblI SYMBOL",
    "bkRHO SYMBOLbkSMALL AbrLPHAbqBbrETAbqCbrHIbqDbrELTAbqEbrPSILONbrTAbqFbrINAL SIGMAbqGbrAMMA",
    "bqHbqIbrOTAbqJbqKbrAPPAbqLbrAMDAbqMbrUbqNbrUbqObrMEGAbsICRONbqPbrHIbrIbrSIbqQbqRbrHObqS",
    "brIGMAbqTbrAUbrHETAbqUbrPSILONbqVbqWbqXbrIbqYbqZbrETAbkTHETA SYMBOLbdKAPPA SYMBOLbdNABLA",
    "bdPARTIAL DIFFERENTIALbeHI SYMBOLbeI SYMBOLbdRHO SYMBOLbdSMALL AbkLPHAbjBbkETAbjCbkHIbjD",
    "bkELTAbjEbkPSILONbkTAbjFbkINAL SIGMAbjGbkAMMAbjHbjIbkOTAbjJbjKbkAPPAbjLbkAMDAbjMbkUbjNbkUbjO",
    "bkMEGAblICRONbjPbkHIbkIbkSIbjQbjRbkHObjSbkIGMAbjTbkAUbkHETAbjUbkPSILONbjVbjWbjXbkIbjYbjZ",
    "bkETAbdTHETA SYMBOLayCAPITAL AbgBbgCbgDbgEbgFbgGbgHbgIbgJbgKbgLbgMbgNbgObgPbgQbgRbgSbgTbgU",
    "bgVbgWbgXbgYbgZayDIGIT EIGHTbeFIVEbfOURbeNINEbeONEbeSEVENbfIXbeTHREEbfWObeZERO",
    "ayITALIC CAPITAL AbnBbnCbnDbnEbnFbnGbnHbnIbnJbnKbnLbnMbnNbnObnPbnQbnRbnSbnTbnUbnVbnWbnXbnY",
    "bnZbfSMALL AblBblCblDblEblFblGblHblIblJblKblLblMblNblOblPblQblRblSblTblUblVblWblXblYblZ",
    "aySMALL AbeBbeCbeDbeEbeFbeGbeHbeIbeJbeKbeLbeMbeNbeObePbeQbeRbeSbeTbeUbeVbeWbeXbeYbeZ",
    "aoCRIPT CAPITAL AbcCbcDbcGbcJbcKbcNbcObcPbcQbcSbcTbcUbcVbcWbcXbcYbcZauSMALL AbaBbaCbaDbaFbaH",
    "baIbaJbaKbaLbaMbaNbaPbaQbaRbaSbaTbaUbaVbaWbaXbaYbaZacXIMIZEacYAN NUMERAL EIGHTatEENapLEVEN",
    "aoFIFTEENaqVEapOURasTEENaoNINEasTEENaoONEaoSEVENatTEENapIXarTEENaoTENapHIRTEENaqREEapWELVE",
    "aqOaoZEROabEASURED ANGLEao OPENING LEFT",
    "apWITH OPEN ARM ENDING IN ARROW POINTING DOWN AND LEFTclRIGHTccLEFT AND DOWNclUP",
    "ccRIGHT AND DOWNcmUPccUP AND LEFTcjRIGHTajBYajRIGHT ANGLE WITH DOTadT ON BONEacCHANICAL ARM",
    "alLEGacDEFAIDRIN CAPITAL LETTER AbcIbcTIUbbBbbCbbDbbEbbFbbGbbHbcPbbIbbJbbKbcPbbLbbMbbNbcGbcY",
    "bbObcEbbPbbQbbRbbSbbTbbUbbVbbWbbXbbYbcUbbZanOMMAamDIGIT EIGHTasFIVEatOURasNINEasONE",
    "av ALTERNATE FORMasSEVENatIXasTHREEax ALTERNATE FORMatWOav ALTERNATE FORMasZERO",
    "amEXCLAMATION OHamFULL STOPamNUMBER EIGHTEENauLEVENatFIFTEENauOURTEENatNINETEENatSEVENTEEN",
    "auIXTEENatTENauHIRTEENauWELVEamSMALL LETTER AbaIbaTIUazBazCazDazEazFazGazHbaPazIazJazKbaPazL",
    "azMazNbaGbaYazObaEazPazQazRazSazTazUazVazWazXazYbaUazZanYMBOL AIVAadIEVAL COMMA",
    "ajEXCLAMATION MARKajQUESTION MARKaeUM BLACK CIRCLEaiOLD WHITE CIRCLE",
    "ahEIGHT POINTED BLACK STARanSPOKED ASTERISKahFIVE SPOKED ASTERISK",
    "aiLATTENED LEFT PARENTHESIS ORNAMENTarRIGHT PARENTHESIS ORNAMENTaiOUR POINTED BLACK STAR",
    "auPINWHEEL STARahGREEK CROSSahLEFT CURLY BRACKET ORNAMENTamPARENTHESIS ORNAMENT",
    "al-POINTING ANGLE BRACKET ORNAMENTahMATHEMATICAL SPACEahRIGHT CURLY BRACKET ORNAMENT",
    "anPARENTHESIS ORNAMENTam-POINTING ANGLE BRACKET ORNAMENTahSALTIREaiHADE",
    "aiIX POINTED BLACK STARalSPOKED ASTERISKaiMALL WHITE CIRCLEahTHREE POINTED BLACK STAR",
    "avPINWHEEL STARahVERTICAL BARahWHITE CIRCLEanSQUAREacETEI MAYEK AHANG KHUDAMaoNJIaoPUN IYEK",
    "anCHEIKHANatEIanDIGIT EIGHTatFIVEauOURatNINEatONEatSEVENauIXatTHREEauWOatZEROanLETTER ATIYA",
    "auBAavHAMauCHAawILauDDAawHAavHOUavILauEauGHOUavOKauHUKauIav LONSUMauJHAMavILauKHOUavOK",
    "ax LONSUMauLAIax LONSUMauMITax LONSUMauNAaw LONSUMavGOUay LONSUMavNAavYAauOauPAaw LONSUM",
    "avHAMauRAIauSAMavHAavSAauTHOUavILax LONSUMavTAawHAauUNauWAIauYANGaoUM IYEK",
    "anSYLLABLE REPETITION MARKanVIRAMAaoOWEL SIGN AAIbaUazNAPazUayCHEINAPayIIazNAPayNUNGayONAP",
    "aySOUNAPayUNAPazUayVISARGAayYENAPanWORD REPETITION MARKacLONadTING FACEacMO",
    "acNDE KIKAKUI COMBINING NUMBER HUNDRED THOUSANDSbmSbfMILLIONSbfTEENSbhN THOUSANDSbiS",
    "bgHOUSANDSaoDIGIT EIGHTauFIVEavOURauNINEauONEauSEVENavIXauTHREEavWOaoSYLLABLE M001 KIba2 KA",
    "ba3 KUba4 WIba5 WAba6 WUba7 MINba8 MANba9 MUNaz10 BIba1 BAba2 BUba3 Iba4 Aba5 Uba6 DIba7 DA",
    "ba8 DUba9 SIaz20 SAba1 SUba2 TIba3 TAba4 TUba5 LIba6 LAba7 LUba8 JIba9 JAaz30 JUba1 YIba2 YA",
    "ba3 YUba4 FIba5 FAba6 FUba7 NINba8 NANba9 NUNaz40 HEEba1 HAba2 HOOba3 NGGAba4 KPEEba5 WO",
    "ba6 HUANba7 MBEEba8 KOba9 WVAaz50 PUba1 PEba2 HENba3 HINba4 LOOba5 TEba6 GBAba7 NGONba8 NYAN",
    "ba9 MENaz60 NYONba1 WVIba2 MBAba3 JOba4 NDOba5 KEEba6 POba7 NDOOba8 PIba9 TOaz70 GBOba1 GBOO",
    "ba2 MBEba3 LEba4 KPUba5 FEba6 KOOba7 VOba8 FEEba9 SOaz80 YEba1 PEEba2 NGGUba3 HEEIba4 LEE",
    "ba5 VEba6 LONG NGGEba7 HUNba8 FOba9 DEEaz90 NGGIba1 TEEba2 KPAba3 GBEEba4 MONba5 KEba6 HE",
    "ba7 BEba8 NYENba9 PAay100 Eba1 FANba2 POOba3 BOOba4 TOOba5 LONG MBOOba6 LONG NGGOOba7 GBE",
    "ba8 KPEba9 YEEaz10 LONG LEba1 GAba2 KPOOba3 JEba4 WOOba5 NGGEEba6 SEba7 NENba8 WEba9 NDE",
    "az20 NGGOba1 YOba2 MBUba3 NDIba4 GBIba5 NDUba6 WEEba7 NGGUAba8 HOOUba9 NDAaz30 HANba1 IN",
    "ba2 KPIba3 FOOba4 NJOOba5 INba6 SOOba7 EIba8 BOba9 WVEaz40 HOba1 YOOba2 LONG MBOba3 WEI",
    "ba4 VOOba5 MBIba6 NGGEba7 Oba8 GBUba9 NJEEaz50 BEEba1 VUba2 NJAba3 LOba4 MUANba5 GIba6 NGGOO",
    "ba7 JEEba8 KPOba9 NGGAAaz60 JOOba1 LONG MBEba2 SEEba3 EEba4 NYINba5 OOba6 GUEIba7 GUANba8 GU",
    "ba9 NONaz70 NYUNba1 RAba2 MBOOba3 VEEba4 MBOba5 LONG JOba6 HIba7 NGUANba8 ENba9 KUAaz80 DOO",
    "ba1 DOba2 VIba3 LONG NGGOba4 NGENba5 VAba6 HUba7 MBUUba8 MBEEba9 MUENaz90 GEEba1 NDEEba2 NJU",
    "ba3 HONba4 WUIba5 ANba6 SIAba7 FUAadORAH WITH NINE BRANCHESadS SYMBOLacRCURY",
    "adOITIC CURSIVE FRACTION EIGHT TWELFTHSbbLEVEN TWELFTHSbaFIVE TWELFTHSbbOUR TWELFTHS",
    "baNINE TWELFTHSbaONE HALFbeTWELFTHbaSEVEN TWELFTHSbbIX TWELFTHSbaTEN TWELFTHSbbHREE TWELFTHS",
    "bbWO TWELFTHSarLETTER AazRCHAIC SAayBAayDAayEayHHAayIayKAazHAayLAayMAayNAazEayOayPAayQAayRA",
    "aySAazEayTAazEazOayWAayYAasOGOGRAM IMNbaRMTarNUMBER EIGHTbd HUNDREDbl THOUSANDbeTHOUSAND",
    "bdY THOUSANDayFIFTYbd THOUSANDbaVEbc HUNDREDbk THOUSANDbdTHOUSANDazORTYbd THOUSANDbaUR",
    "bc HUNDREDbk THOUSANDbdTHOUSANDayNINEbc HUNDREDbk THOUSANDbdTHOUSANDbcTY THOUSANDayONE",
    "bb HUNDREDbj THOUSANDbcTHOUSANDaySEVENbd HUNDREDbl THOUSANDbeTHOUSANDbdTYbf THOUSANDazIX",
    "bb HUNDREDbj THOUSANDbcTHOUSANDbbTYbd THOUSANDayTENbb THOUSANDazHIRTYbe THOUSANDbaREE",
    "bd HUNDREDbl THOUSANDbeTHOUSANDazWENTYbe THOUSANDbaObb HUNDREDbj THOUSANDbcTHOUSAND",
    "ajHIEROGLYPHIC LETTER AbdBAbf-2bdDAbdEbdHHAbdIbdKAbeHAbdLAbdMAbdNAbf-2beEbf-2bdObdPAbdQAbdRA",
    "bf-2bdSAbf-2beEbdTAbf-2beEbf-2beObdWAbdYAawSYMBOL VIDJbh-2adPERSONacSSAGE WAITING",
    "acTRICAL BREVEajLONG OVER SHORTatTWO SHORTSajPENTASEMEajSHORT OVER LONGajTETRASEMEakRISEME",
    "akWO SHORTS JOINEDauOVER LONGaeOabIAO LETTER AHanRCHAIC MAauNAavGAauZZAamBAanRIamDAanDAanLHA",
    "apYAanZAaoHAaoYIaoZAamFAamGAanHAaoHAamHAanHAamKAamLAanHAaoYAanYAamMAanHAamNAaoSALIZATIONanGA",
    "aoHAanHAanNAaoHAanYAaoHAamPAanLAamQAanGAamREFORMED TONE-1ba2ba4ba5ba6ba8awSHAanTEamSAanHA",
    "anSAanYIamTAanEanLHAapYAanONE-2ar3ar4ar5ar6ar7ar8anSAaoEaoHAaoSAanTAamVAanFAamWAamXA",
    "amYI DZHAapKAapNNAapPAapTAaqSAarHAaqTAamZAanHAanSAaoHAanZAaoSAapYAaoYAafSIGN ASPIRATION",
    "akCONSONANT MODIFIER BARakREFORMED ASPIRATIONatVOICINGafTONE ABOVEakBELOWakRIGHTakTOP RIGHT",
    "afVOWEL SIGN AarAarEasEarHHarIarNasGarUaqEarAarIarNasGarRasRaqIarAasNatGarEarGarIarNGarOasNG",
    "arUaqNarGaqOarERasYarGarOarUaqROUNDED ERbaRaqUarAasNatGarEIarIarNGarOGarUaqVWaqWarOaqYarI",
    "arUIacCR DASH SYMBOLafON US SYMBOLaeO SIGNafBEafPHONEafSCOPEacDDLE DOT",
    "ahTHIRD WHITE RIGHT POINTING INDEXadLINE HORIZONTAL ELLIPSISacLITARY HELMETajMEDALadKY WAY",
    "adL SIGNacNIBUSaeDISCaeMIZEadUS SIGNak IN TRIANGLEalWITH COMMA ABOVEaqDOT BELOW",
    "aqFALLING DOTSaqRISING DOTSagTILDEaf-OR-PLUS SIGNadYacRRORag BALLabMSPabOBILE PHONEam OFF",
    "anWITH RIGHTWARDS ARROW AT LEFTacDELSaeRN PENTATHLONadI ABBREVIATION SIGNafDANDAagIGIT EIGHT",
    "alFIVEamOURalNINEalONEalSEVENamIXalTHREEamWOalZEROagOUBLE DANDAafLETTER AanAanIanUamBAanHA",
    "amCAanHAamDAanDAaoHAanHAamEamGAanHAamHAamIanIamJAanHAamKAanHAamLAanLAamMAamNAanGAanNAanYAamO",
    "amPAanHAamRAamSAanHAanSAamTAanHAanTAaoHAamUanUamVAanOCALIC LavLauRavRamYAafSIGN ANUSVARA",
    "alRDHACANDRAakHUVAakVIRAMAamSARGAafVOWEL SIGN AAarIarUaqEaqIarIaqOaqUarUaqVOCALIC LazLayRazR",
    "aeFIER BREVE WITH INVERTED BREVEajLETTER ACUTE ACCENTarLVEOLAR CLICKarPOSTROPHE",
    "aqBEGIN HIGH TONEawLOW TONEarILABIAL CLICKaqCAPITAL AazEayBazARRED BayCayDayEayFayGayH",
    "az WITH STROKEayIayJayKayLayMayNayOazUayPayQayRazEVERSED EbhNayTayUayVayW",
    "arENTRED LEFT HALF RINGayRIGHT HALF RINGarHINESE TONE YANG PINGbiQUbiRUbiSHANGbeIN PINGbhQU",
    "bhRUbhSHANGarIRCUMFLEX ACCENTarOLONarROSS ACCENTarYRILLIC ENazHARD SIGNazSOFT SIGN",
    "aqDENTAL CLICKarOT HORIZONTAL BARauSLASHauVERTICAL BARasUBLE APOSTROPHEaxPRIMEasWN ARROWHEAD",
    "avTACKaqEND HIGH TONEauLOW TONEarXTRA-HIGH DOTTED LEFT-STEM TONE BARbiTONE BAR",
    "bbLEFT-STEM TONE BARbbTONE BARawLOW DOTTED LEFT-STEM TONE BARbhTONE BARbaLEFT-STEM TONE BAR",
    "baTONE BARaqGEORGIAN NARarLOTTAL STOPbc WITH STROKEarRAVE ACCENTaqHALF TRIANGULAR COLON",
    "arIGH DOTTED LEFT-STEM TONE BARbcTONE BARavLEFT-STEM TONE BARavTONE BARaqLATERAL CLICK",
    "arEFT ARROWHEADavHALF RINGavTACKarOW ACUTE ACCENTauCIRCUMFLEX ACCENT",
    "auDOTTED LEFT-STEM TONE BARbbTONE BARawWN ARROWHEADauGRAVE ACCENTauINVERTED EXCLAMATION MARK",
    "auLEFT ARROWbeHEADay-STEM TONE BARauMACRONauRIGHT ARROWHEADawNGauTILDEavONE BAR",
    "auUP ARROWHEADauVERTICAL LINEatER RIGHT CORNER ANGLEaqMACRONarID DOTTED LEFT-STEM TONE BAR",
    "bbTONE BARauLEFT-STEM TONE BARauTONE BARatDLE DOUBLE ACUTE ACCENTbeGRAVE ACCENT",
    "axGRAVE ACCENTasNUS SIGNaqOPEN SHELFaqPLUS SIGNarRIMEaqRAISED COLONaxDOWN ARROW",
    "axEXCLAMATION MARKaxINVERTED EXCLAMATION MARKaxUP ARROWarETROFLEX CLICK WITH RETROFLEX HOOK",
    "asVERSED COMMAazGLOTTAL STOPbl WITH STROKEarHOTIC HOOKarIGHT ARROWHEADawHALF RINGawTACK",
    "aqSHELFasORT EQUALS SIGNarMALL AaxEaxINaxLPHAawBax WITH HOOKaxARRED OaxETAaxOTTOM HALF OawC",
    "ax WITH CURLaxAPITAL AAbeBbeGbf WITH HOOKbeHbeIbf WITH STROKEbfNVERTED RbeLbf WITH BELTbeN",
    "beOEbeRbeUbeYaxHIaxLOSED OMEGAbdREVERSED OPEN EawDax WITH HOOKbh AND TAILbdTAILaxELTA",
    "ayZH DIGRAPHaxOTLESS J WITH STROKEbr AND HOOKaxZ DIGRAPHbg WITH CURLbmRETROFLEX HOOKawEaxNG",
    "axSHaxTHaxZHawFaxENG DIGRAPHawGax WITH HOOKaxAMMAaxREEK GAMMAbcPHIawHax WITH HOOKbdSTROKE",
    "axENGba WITH HOOKawI WITH STROKEaxOTAawJax WITH CROSSED-TAILawKawLax WITH BELT",
    "bdINVERTED LAZY SbdMIDDLE TILDEbdPALATAL HOOKbdRETROFLEX HOOKbr AND BELTaxEZH",
    "ba WITH RETROFLEX HOOKaxIGATURE OEaxS DIGRAPHaxZ DIGRAPHawMax WITH HOOKawN WITH LEFT HOOK",
    "bdRETROFLEX HOOKawOax WITH STROKEaxPEN EbbOawPaxHIawQawRax WITH FISHHOOKbdTAILaxAMS HORN",
    "axEVERSED EbfGLOTTAL STOPbfOPEN EawSax WITH CURLbdHOOKaxCHWAayRIPT GaxIDEWAYS UawT",
    "ax WITH PALATAL HOOKbdRETROFLEX HOOKaxC DIGRAPH WITH CURLaxESH DIGRAPHaxHETAaxOP HALF O",
    "axS DIGRAPHbg WITH RETROFLEX HOOKaxURNED AbeEbeLPHAbdHbdIbdMbe WITH LONG LEGbdOPEN EbdR",
    "be WITH HOOKbkLONG LEGbs AND RETROFLEX HOOKbdVbdWbdYbe WITH BELTawUax BARayWITH LEFT HOOK",
    "axPSILONawVax WITH HOOKbdRIGHT HOOKawWawXawYawZax WITH CURLbdRETROFLEX HOOK",
    "arTRESS AND HIGH TONEbbLOW TONEarUPERSCRIPT HALF TRIANGULAR COLONbcTRIANGULAR COLON",
    "aqTRIANGULAR COLONarURNED COMMAaqUNASPIRATEDarP ARROWHEADatTACKarSaqVERTICAL LINEarOICING",
    "aqYANG DEPARTING TONE MARKarIN DEPARTING TONE MARKadULO TWO SUMacNEY BAGagWITH WINGS",
    "af-MOUTH FACEadGOLIAN BIRGAap WITH DOUBLE ORNAMENTavORNAMENTakCOLONamMMAakDIGIT EIGHTaqFIVE",
    "arOURaqNINEaqONEaqSEVENarIXaqTHREEarWOaqZEROalOUBLE BIRGA WITH ORNAMENTakELLIPSISakFOUR DOTS",
    "alREE VARIATION SELECTOR FOURbiONEbiTHREEbjWOalULL STOPakINVERTED BIRGA",
    "ay WITH DOUBLE ORNAMENTakLETTER AasLI GALI AbbHbbNUSVARA ONEbaBALUDAbaCAbaDAbcGALGAbcMARU",
    "bbDAbaHALF UbfYAbaIbbNVERTED UBADAMAbaKAbaNGAbbNAbaPAbbHAbaSSAbaTAbbHREE BALUDAbbTAbcHA",
    "baUBADAMAbaVISARGA ONEbaZAbbHAasNGarBAarCHAau WITH TWO DOTSatIarDAarEasEarFAarGAarHAAarIarJA",
    "arKAasHAarLAasHAarMAatNCHU ALI GALI BHAbhCAbiYAbhDDHAbiHAbhGHAbhJHAbhLHAbhNGAbhSSAbhTAbiTA",
    "bhZAbiHAayFAayIayKAayRAayZHAarNAarOasEarPAarQAarRAarSAasHAasIBE ANGawCHAawDAawEawFAawGAayA",
    "awHAayAawIaxYawJAawKAawPAawRAAawSHAawTAaxSAawUaxEawZAaxHAarTAasODO ALI GALI TAbfZHAaxNGawBA",
    "awCHAawDAaxZAawEawGAayAawHAAawIawJAaxIAawKAawLONG VOWEL SIGNawMAawNIAawOaxEawPAawQAawTAaxSA",
    "awUaxEawWAawYAasSAarUasEarWAarYAarZAasHIasRAakMANCHU COMMAarFULL STOPakNIRUGUakROTATED BIRGA",
    "ax WITH DOUBLE ORNAMENTbdORNAMENTakSIBE SYLLABLE BOUNDARY MARKERalWIRL BIRGA",
    "av WITH DOUBLE ORNAMENTbbORNAMENTakTODO SOFT HYPHENalRIPLE BIRGA WITH ORNAMENT",
    "alURNED SWIRL BIRGA WITH DOUBLE ORNAMENTakVOWEL SEPARATORadKEYag FACEadOGRAM FOR EARTHanYANG",
    "aoINaeRAILaeSTABLE SYMBOLacOD BUBBLEadN CAKEafVIEWING CEREMONYacSQUEafITOacTHER CHRISTMAS",
    "adOR BOATagSCOOTERafIZED WHEELCHAIRafWAYacUNT FUJIafAINai BICYCLISTajCABLEWAYajRAILWAYadSE",
    "af FACEagTRAPadTHacVIE CAMERAacYAIabRO DANDAafIGIT EIGHTakFIVEalOURakNINEakONEakSEVENalIX",
    "akTHREEalWOakZEROafOUBLE DANDAaeLETTER AalBAalCHUalDAanIalEamAalHAIanOalKEAAEamHAIamOalLAanN",
    "alMAEMamIMalNGIamINalOamLamOalPAamHIalRIamOalSHIalTAamEKamHEAalWAalYOabUCH GREATER-THAN",
    "afLESS-THANacLTANI LETTER AapBAaqHAapCAaqHAapDAaqDAarDAarHAaqHAapEapGAaqHAapHAapIapJAaqJA",
    "apKAaqHAapLAapMAapNAaqNAaqYAapPAaqHAapRAaqHAaqRAapSAapTAaqHAaqTAarHAapUapVAapYA",
    "aiSECTION MARKaeIMAPafPLE MUSICAL NOTESahICATION SIGNat IN DOUBLE CIRCLEaxLEFT HALF CIRCLE",
    "axRIGHT HALF CIRCLEaxTRIANGLEauWITH DOT ABOVEazUNDERBARapXafSETai MULTIPLICATIONajUNION",
    "acSHROOMadIC FLAT SIGNagNATURAL SIGNagSHARP SIGNafAL KEYBOARDaq WITH JACKSaiNOTEaiSCORE",
    "ajYMBOL ARPEGGIATO DOWNbaUPapBEGIN BEAMavPHRASEavSLURavTIEaqRACEatKETarEATH MARKasVEatIS",
    "av RESTapC CLEFaqAESURAaqIRCLE X NOTEHEADaqLIMACUSasVISarUSTER NOTEHEAD BLACKbgWHITEaqODA",
    "arMBINING ACCENTbf-STACCATObaUGMENTATION DOTazBENDazDOITbbUBLE TONGUEbbWN BOWazFLAG-1be2be3",
    "be4be5bbIPazHARMONICazLOUREazMARCATObg-STACCATOazRIPazSMEARbaNAP PIZZICATObaPRECHGESANG STEM",
    "baTACCATISSIMObgObbEMazTENUTObaREMOLO-1bh2bh3bbIPLE TONGUEazUP BOWasMON TIMEaqRESCENDOarOIX",
    "aqUT TIMEapDA CAPOarL SEGNOarMPat ALLarSHED BARLINEaqECRESCENDOarGREE SLASHaqOUBLE BARLINE",
    "awFLATawSHARPaqRUM CLEF-1az2apEIGHTH NOTEawRESTaqND BEAMatOF STIMMEatPHRASEatSLURatTIE",
    "apF CLEFav OTTAVA ALTAbdBASSAaqERMATAaw BELOWaqINAL BARLINEasGERED TREMOLO-1bg2bg3",
    "arVE-LINE STAFFaqLAT DOWNauUPaqORTEarUR-LINE STAFFauSTRING FRETBOARDaqUSA BLACKauWHITE",
    "apG CLEFav OTTAVA ALTAbdBASSAaqLISSANDO DOWNazUPaqRACE NOTE NO SLASHbaSLASHarEGORIAN C CLEF",
    "azF CLEFapHALF NOTEauPEDAL MARKauRESTarUPTSTIMMEapINVERTED TURNapKIEVAN C CLEF",
    "awEIGHTH NOTE STEM DOWNbnUPaxND OF PIECEawFINAL NOTEaxLAT SIGNawHALF NOTE",
    "awQUARTER NOTE STEM DOWNboUPawRECITATIVE MARKawWHOLE NOTEaqORONapLEFT REPEAT SIGNaqONGA",
    "au IMPERFECTA RESTavPERFECTA RESTapMAXIMAaqEZZOaqINIMAav BLACKawRESTaqOON NOTEHEAD BLACK",
    "bdWHITEaqULTI RESTauPLE MEASURE RESTapNATURAL DOWNaxUPaqEBENSTIMMEaqOTEHEAD BLACK",
    "aqULL NOTEHEADapONE HUNDRED TWENTY-EIGHTH NOTEbpRESTas-LINE STAFFaqRNAMENT STROKE-1bg0bg1bf2",
    "bf3bf4bf5bf6bf7bf8bf9aqTTAVA ALTAawBASSAapPARENTHESIS NOTEHEADaqEDAL MARKavUP MARK",
    "arS SUBPUNCTISaqIANOaqLUS NOTEHEADaqODATUSarRRECTUSay FLEXUSapQUARTER NOTEaxRESTaxTONE FLAT",
    "bcSHARParINDICESIMA ALTAbcBASSAapREPEAT DOTSavED FIGURE-1bf2bf3arVERSE FINAL BARLINE",
    "aqIGHT REPEAT SIGNarNFORZANDOapSCANDICUSay FLEXUSaqEGNOarMIBREVIS BLACKbaRESTbaWHITE",
    "atMINIMA BLACKbaRESTbaWHITEaqHARP DOWNavUParORT BARLINEaqINGLE BARLINEarX-LINE STAFF",
    "atSTRING FRETBOARDasTEENTH NOTEazRESTatY-FOURTH NOTEbcRESTaqORIaqQUARE BawNOTEHEAD BLACK",
    "bfWHITEaqUBITOapTEMPUS IMPERFECTUM CUM PROLATIONE IMPERFECTAch DIMINUTION-1ct2ct3bxPERFECTA",
    "awPERFECTUM CUM PROLATIONE IMPERFECTAbvPERFECTAcd DIMINUTION-1aqHIRTY-SECOND NOTEbdREST",
    "arREE-LINE STAFFaqORCULUSax RESUPINUSaqRarIANGLE NOTEHEAD DOWN BLACKbmWHITEbhLEFT BLACK",
    "bmWHITEbhRIGHT BLACKbnWHITEbhUP BLACKbkRIGHT BLACKbqWHITEbkWHITEax-ROUND NOTEHEAD DOWN BLACK",
    "bsWHITEaqURNat SLASHauUPaqWO-LINE STAFFapVIRGAaqOID NOTEHEADapWHOLE NOTEavREST",
    "aqITH FINGERNAILSapX NOTEHEADapZabVSabWabYANMAR CONSONANT SIGN MEDIAL HAbeRAbeWAbeYA",
    "ayON MEDIAL LAbiMAbiNAaxSHAN MEDIAL WAaiDIGIT EIGHTaoFIVEapOURaoNINEaoONEaoSEVENapIXaoTHREE",
    "apWOaoZEROaiLETTER AaqITON RAaqUapBAaqHAapCAaqHAapDAaqDAarHAaqHAapEaqASTERN PWO KAREN GHWA",
    "bhNNAbhYWAapGAaqHAaqREAT SAapHAapIaqIapJAaqHAapKAaqHAasMTI CAaxHAawDDAayHAaxHAawFAawGAawHA",
    "axHAawJAaxHAawLLAawNAaxYAawRAawSAawTTAayHAawXAawZAapLAaqLAapMAaqON BBAavEatEatJHAatNGAapNA",
    "aqGAaqNAarYAaqYAapOapPAaqHAapRAaqUMAI PALAUNG FAapSAaqGAW KAREN SHAaqHAasN AauBAavHAauCAavHA",
    "auDAauFAauGAavHAauHAauJHAauKAavHAauNAavNAavYAauPHAauTHAauZAarWE PALAUNG CHAbcSHAaqSAapTA",
    "arI LAING BAbaHAazDAbaDAbbHAbaHAazFAazGAbaHAazJAbaHAazLLAazNNAbaYAaqHAaqTAarHAapUaqU",
    "apVOCALIC LayLaxRayRapWAaqESTERN PWO KAREN PWAbhTHAapYAajOGOGRAM KHAMTI HMayOAYayQN",
    "aiMODIFIER LETTER KHAMTI REDUPLICATIONaySHAN REDUPLICATIONaiSHAN DIGIT EIGHTatFIVEauOUR",
    "atNINEatONEatSEVENauIXatTHREEauWOatZEROajIGN ANUSVARAaoSATanDOT BELOWanKHAMTI TONE-1az3",
    "anLITTLE SECTIONanPAO KAREN TONEanRUMAI PALAUNG TONE-5anSECTIONaoHAN COUNCIL EMPHATIC TONE",
    "baTONE-2bf3asSAWasTONE-2ax3ax5ax6anTAI LAING TONE-2bc5anVIRAMAapSARGA",
    "anWESTERN PWO KAREN TONE-1bk2bk3bk4bk5ajYMBOL AFOREMENTIONEDaqITON EXCLAMATIONavONEavTWO",
    "apCOMPLETEDapGENITIVEapLOCATIVEapSHAN EXCLAMATIONauONEaiTAI LAING DIGIT EIGHTayFIVEazOUR",
    "ayNINEayONEaySEVENazIXayTHREEazWOayZEROajONE MARK SGAW KAREN HATHIbdKE PHOaiVOWEL SIGN AAauI",
    "avTON AbaIatEau ABOVEatGEBA KAREN IatIauIatKAYAH EEazOEazUatMON IIaxOatSGAW KAREN EUauHAN AA",
    "ayEaz ABOVEayFINAL YatTALL AAatUauUatVOCALIC LbcLbbRbcRatWESTERN PWO KAREN EUblUE"]

/-- The names that begin with N. -/
def listN : List String :=
  ["aaN-ARY CIRCLED DOT OPERATORaoPLUS OPERATORaoTIMES OPERATORahOPRODUCTagINTERSECTION",
    "agLOGICAL ANDaoORagPRODUCTagSQUARE INTERSECTION OPERATORanUNION OPERATORahUMMATION",
    "agTIMES OPERATORagUNIONal OPERATOR WITH DOTbaPLUSagWHITE VERTICAL BAR",
    "abABATAEAN CRUCIFORM NUMBER FOURakLETTER ALEPHasYINarBETHarDALETHarFINAL ALEPHaxBETHaxHE",
    "axKAPHaxLAMEDHaxMEMaxNUNaxSHINaxYODHarGIMELarHEatTHarKAPHarLAMEDHarMEMarNUNarPEarQOPHarRESH",
    "arSADHEatMEKHasHINarTAWasETHarWAWarYODHarZAYINakNUMBER FIVEasOURarONEau HUNDREDarTENasHREE",
    "asWENTYatOadLAacIL POLISHadRA SIGNacKacME BADGEacNDaeINAGARI HEADSTROKEamLETTER AauAauIauU",
    "atBAauHAatCAauHAatDAauDAavHAauHAatEatGAauHAatHAatIauIatJAauHAatKAauHAatLAauLAatMAatNAauGA",
    "auNAauYAatOatPAauHAatRAauRAatSAauHAauSAatTAauHAauTAavHAatUauUatVAauOCALIC RbcRatYA",
    "amSIGN ANUSVARAasVAGRAHAarSIDDHAMarVIRAMAatSARGAamVOWEL SIGN AAayIayUaxEaxIayIaxO",
    "axPRISHTHAMATRA EaxUayUaxVOCALIC RbgRacRROW NO-BREAK SPACEacTIONAL DIGIT SHAPESajPARK",
    "acUSEATED FACEacZAR AMULETabBHacSPabECKTIEacGATED DOUBLE VERTICAL BAR DOUBLE RIGHT TURNSTILE",
    "afIVE ACKNOWLEDGEajCIRCLED DIGIT ZEROarLATIN CAPITAL LETTER AbmBbmCbmDbmEbmFbmGbmHbmIbmJbmK",
    "bmLbmMbmNbmObmPbmQbmRbmSbmTbmUbmVbmWbmXbmYbmZarNUMBER EIGHTEENazLEVENayFIFTEENazOURTEEN",
    "ayNINETEENaySEVENTEENazIXTEENayTHIRTEENazWELVEbbNTYarSQUAREarTRIANGLEajDIAGONAL CROSS",
    "asDIAMONDasMIDDLE RIGHT TO LOWER CENTREajSQUARED ABarCROSS MARKarICarLATIN CAPITAL LETTER A",
    "bmBbmCbmDbmEbmFbmGbmHbmIbmJbmKbmLbmMbmNbmObmPbmQbmRbmSbmTbmUbmVbmWbmXbmYbmZarPA",
    "arQUESTION MARKarSAarWCacITHER A SUBSET OF NOR EQUAL TOamPERSET OF NOR EQUAL TO",
    "ajPPROXIMATELY NOR ACTUALLY EQUAL TOaiGREATER-THAN NOR EQUAL TObcIVALENT TOazLESS-THAN",
    "aiLESS-THAN NOR EQUAL TOazIVALENT TOawGREATER-THANacLacPTUNEah FORM TWOacRD FACEacSSUS",
    "adT WITH EGGSaeING DOLLSacUTERaeRAL CHESS BISHOPau ROTATED NINETY DEGREES",
    "bdTWO HUNDRED SEVENTY DEGREESaoEQUIHOPPERay ROTATED NINETY DEGREESaoKING",
    "as ROTATED NINETY DEGREESbbTWO HUNDRED SEVENTY DEGREESapNIGHTau ROTATED FORTY-FIVE DEGREES",
    "bdNINETY DEGREESbdONE HUNDRED THIRTY-FIVE DEGREESbdTHREE HUNDRED FIFTEEN DEGREES",
    "beWO HUNDRED SEVENTY DEGREESbpTWENTY-FIVE DEGREESaoPAWNas ROTATED NINETY DEGREES",
    "bbTWO HUNDRED SEVENTY DEGREESaoQUEENat ROTATED NINETY DEGREESbcTWO HUNDRED SEVENTY DEGREES",
    "aoROOKas ROTATED NINETY DEGREESbbTWO HUNDRED SEVENTY DEGREESaoTURNED BISHOPavKINGawNIGHT",
    "avPAWNavQUEENavROOKaiFACEacW LINEaeMOON SYMBOLajWITH FACEaeSHEQEL SIGNaeTAI LUE DIGIT EIGHT",
    "asFIVEatOURasNINEasONEasSEVENatIXasTHREEatWOasZEROamLETTER FINAL BazDazKazMazNbaGazV",
    "atHIGH BAayDAayFAayHAayKAazVAayLAayMAayNAazGAayPAazHAayQAaySAazUAayTAazHAazSAayVAayXAazVA",
    "ayYAatLOW BAaxDAaxFAaxHAaxKAayVAaxLAaxMAaxNAayGAaxPAayHAaxQAaxSAayUAaxTAayHAaySAaxVAaxXAayVA",
    "axYAamSIGN LAEauVamTHAM DIGIT ONEanONE MARK-1aw2amVOWEL SIGN AAazYayEayYaxEaxIIayYaxOayAazY",
    "ayYaxUayEazYayUayYaxVOWEL SHORTENERadA ABBREVIATION SIGNafCOMMAafDANDAagIGIT EIGHTalFIVE",
    "amOURalNINEalONEalSEVENamIXalTHREEamWOalZEROagOUBLE COMMAamDANDAafGAP FILLERafINSERTION SIGN",
    "afLETTER AanAanIanUamBAanHAamCAanHAamDAanDAaoHAanHAamEamGAanHAamHAamIanIamJAanHAamKAanHAamLA",
    "anHAamMAanHAamNAanGAaoHAanHAanNAanYAaoHAamOamPAanHAamRAanHAamSAanHAanSAamTAanHAanTAaoHAamU",
    "anUamVEDIC ANUSVARAanOCALIC LavLauRavRamWAamYAafOMafPLACEHOLDER MARKafSANDHI MARKagIDDHI",
    "ahGN ANUSVARAalVAGRAHAakCANDRABINDUakFINAL ANUSVARAakJIHVAMULIYAakNUKTAakUPADHMANIYAakVIRAMA",
    "amSARGAafVOWEL SIGN AAarIarUaqEaqIarIaqOaqUarUaqVOCALIC LazLayRazRadLINE LEFTaiRIGHTadSPAPER",
    "acXT LINEafPAGEabIGHT WITH STARSacNJAabKO COMBINING DOUBLE DOT ABOVEaoLONG DESCENDING TONE",
    "atHIGH TONEatLOW TONEatRISING TONEaoNASALIZATION MARKaoSHORT HIGH TONEauLOW TONE",
    "auRISING TONEahMAaeDANTAYALANafIGIT EIGHTakFIVEalOURakNINEakONEakSEVENalIXakTHREEalWOakZERO",
    "afOROME SIGNaeEXCLAMATION MARKaeHIGH TONE APOSTROPHEaeLAJANYALANafETTER AalBAalCHAalDA",
    "anGBASINNAalEamEalFAalGBAalHAalIalJAamONA CHAaqJAaqRAalKAalLAalMAalNamAan WOLOSOamYA",
    "ao WOLOSOalOamOalPAalRAamRAalSAalTAalUalWAalYAafOW TONE APOSTROPHEaeSYMBOL GBAKURUNEN",
    "alOO DENNENaeTAMAN SIGNabLabNBSPabO BICYCLESaeREAK HEREadENTRYai SIGNadMOBILE PHONES",
    "adONE UNDER EIGHTEEN SYMBOLadPEDESTRIANSaeIRACYadSMOKING SYMBOLac-BREAK SPACE",
    "acMINAL DIGIT SHAPESaeSMA SIGNacN-BREAKING HYPHENaePOTABLE WATER SYMBOLadFORKINGacR",
    "adDIC MARK SIGNadMAL SUBGROUP OFas OR EQUAL TOadTH EAST AND SOUTH WEST ARROWamRROW",
    "aq AND SOUTH EAST ARROWarCROSSING NORTH WEST ARROWbaSOUTH EAST ARROWarWITH HOOKalBLACK ARROW",
    "alDOUBLE ARROWalPOINTING BUDauLEAFauVINE LEAFalSANS-SERIF ARROWalTRIANGLE-HEADED ARROW",
    "bg TO BARalWHITE ARROWagINDIC FRACTION ONE EIGHTHazHALFazQUARTERazSIXTEENTHavTHREE QUARTERS",
    "bbSIXTEENTHSamPLACEHOLDER MARKamQUANTITY MARKapRTER MARKamRUPEE MARK",
    "agWEST AND SOUTH EAST ARROWamRROWaq AND NORTH EAST ARROWarCROSSING NORTH EAST ARROW",
    "arTO CORNERauLONG BARarWITH HOOKalBLACK ARROWalDOUBLE ARROWalPOINTING BUDauLEAFauVINE LEAF",
    "alSANS-SERIF ARROWalTRIANGLE-HEADED ARROWbg TO BARalWHITE ARROWafEAST-POINTING AIRPLANEacSE",
    "acT A SUBSET OFaiPERSET OFafLMOST EQUAL TOafN ELEMENT OFafSYMPTOTICALLY EQUAL TOaeCHECK MARK",
    "aeEQUAL TOahIVALENT TOaeGREATER-THANaeIDENTICAL TOaeLESS-THANaeNORMAL SUBGROUP OF",
    "aw OR EQUAL TOaePARALLEL TOaeSIGNafQUARE IMAGE OF OR EQUAL TOalORIGINAL OF OR EQUAL TO",
    "aeTILDEafRUEadCHED LEFT SEMICIRCLE WITH THREE DOTS",
    "ajOWER RIGHT-SHADOWED WHITE RIGHTWARDS ARROWaiRIGHT SEMICIRCLE WITH THREE DOTS",
    "aiUPPER RIGHT-SHADOWED WHITE RIGHTWARDS ARROWadEae PADahGEaeBOOKai WITH DECORATIVE COVERabUL",
    "adLacMBER EIGHTEEN FULL STOPaiLEVEN FULL STOPahFIFTEEN FULL STOPaiOURTEEN FULL STOP",
    "ahNINETEEN FULL STOPahSEVENTEEN FULL STOPaiIGNajXTEEN FULL STOPahTEN FULL STOP",
    "aiHIRTEEN FULL STOPaiWELVE FULL STOPakNTY FULL STOPadERO SIGNacSHU CHARACTER-1B170au1au2au3",
    "au4au5au6au7au8au9auAauBauCauDauEauFat80au1au2au3au4au5au6au7au8au9auAauBauCauDauEauFat90au1",
    "au2au3au4au5au6au7au8au9auAauBauCauDauEauFatA0au1au2au3au4au5au6au7au8au9auAauBauCauDauEauF",
    "atB0au1au2au3au4au5au6au7au8au9auAauBauCauDauEauFatC0au1au2au3au4au5au6au7au8au9auAauBauCauD",
    "auEauFatD0au1au2au3au4au5au6au7au8au9auAauBauCauDauEauFatE0au1au2au3au4au5au6au7au8au9auAauB",
    "auCauDauEauFatF0au1au2au3au4au5au6au7au8au9auAauBauCauDauEauFas200au1au2au3au4au5au6au7au8",
    "au9auAauBauCauDauEauFat10au1au2au3au4au5au6au7au8au9auAauBauCauDauEauFat20au1au2au3au4au5au6",
    "au7au8au9auAauBauCauDauEauFat30au1au2au3au4au5au6au7au8au9auAauBauCauDauEauFat40au1au2au3au4",
    "au5au6au7au8au9auAauBauCauDauEauFat50au1au2au3au4au5au6au7au8au9auAauBauCauDauEauFat60au1au2",
    "au3au4au5au6au7au8au9auAauBauCauDauEauFat70au1au2au3au4au5au6au7au8au9auAauBauCauDauEauFat80",
    "au1au2au3au4au5au6au7au8au9auAauBauCauDauEauFat90au1au2au3au4au5au6au7au8au9auAauBauCauDauE",
    "auFatA0au1au2au3au4au5au6au7au8au9auAauBauCauDauEauFatB0au1au2au3au4au5au6au7au8au9auAauBauC",
    "auDauEauFatC0au1au2au3au4au5au6au7au8au9auAauBauCauDauEauFatD0au1au2au3au4au5au6au7au8au9auA",
    "auBauCauDauEauFatE0au1au2au3au4au5au6au7au8au9auAauBauCauDauEauFatF0au1au2au3au4au5au6au7au8",
    "au9auAauBagITERATION MARKacT AND BOLTabYIAKENG PUACHUE HMONG CIRCLED CAaxDIGIT EIGHTbdFIVE",
    "beOURbdNINEbdONEbdSEVENbeIXbdTHREEbeWObdZEROaxLETTER AbfAbeCAbeDAbfLAbeEbfEbeFAbeGAbeHAbgH",
    "beIbeKAbeLAbeMAbfLAbeNAbfCAbfKAbfPAbgLAbfQAbfRAbfTAbgSAbgXAbfYAbeObfObePAbfLAbeQAbeRAbfRA",
    "beSAbeTAbfSAbfXAbeUbeVAbeWbeXAbfYAbeYAbeZAayOGOGRAM NYAJaxSIGN FOR ANIMALbgINVERTEBRATE",
    "bgLOCATIONbgPERSONbgTHINGbcXW XWayYLLABLE LENGTHENERaxTONE-BbcDbcGbcJbcMbcSbcV"]

/-- The names that begin with O. -/
def listO : List String :=
  ["aaOBJECT REPLACEMENT CHARACTERacLIQUE ANGLE OPENING DOWNawUPaiHYPHENacSERVER EYE SYMBOL",
    "abCR AMOUNT OF CHECKaeBELT BUCKLEafOW TIEafRANCH BANK IDENTIFICATIONaeCHAIR",
    "afUSTOMER ACCOUNT NUMBERaeDASHafOUBLE BACKSLASHaeFORKaeHOOKaeINVERTED FORKacTAGONAL SIGN",
    "adOPUSabDENabFFICE BUILDINGabGHAM FEATHER MARKagLETTER AILManBEITHanCEIRTaoOLLanDAIR",
    "anEABHADHapDHADHapMHANCHOLLanFEARNanGORTanIFINaoODHADHanLUISanMUINanNGEADALaoIONanONNaoR",
    "anPEITHanRUISanSAILaoTRAIFanTINNEanUATHaoILLEANNaoRagREVERSED FEATHER MARKagSPACE MARKacONEK",
    "abHM SIGNabIL DRUMabK HAND SIGNabL CHIKI AHADajDIGIT EIGHTapFIVEaqOURapNINEapONEapSEVENaqIX",
    "apTHREEaqWOapZEROajGAAHLAA TTUDDAAGajLETTER AAJasKasMasWarGarLarNGarTaqEDDarNarParRRaqIHarNY",
    "arRarSaqLAasAarEarIarOarUaqOBarHarTTarVaqUCarDarNNarYajMU TTUDDAGal-GAAHLAA TTUDDAAG",
    "ajPHAARKAAakUNCTUATION DOUBLE MUCAADavMUCAADajRELAAacD CHINESE HOOK MARKamITERATION MARK",
    "aeHUNGARIAN CAPITAL LETTER AbeAbeKbeMBbeNDbdCLOSE EbdEbeBbeCbfHbfSbeDbeEbeFbeGbfYbeHbeJbeK",
    "beLbfYbeMbfPbeNbfCbfTbg-SHAPED SIGNbfYbePbeRbeSbfZbeTbfYbeVbeZbfSbdIbeIbdNIKOLSBURG OEboUE",
    "bdObeEEbeObdRUDIMENTA OEbnUEbdSHORT ERbdUbeNKbeSbeUaoNUMBER FIFTYaxVEavONEay HUNDRED",
    "azTHOUSANDavTENaoSMALL LETTER AbcAbcKbcMBbcNDbbCLOSE EbbEbcBbcCbdHbdSbcDbcEbcFbcGbdYbcHbcJ",
    "bcKbcLbdYbcMbdPbcNbdCbdTbe-SHAPED SIGNbdYbcPbcRbcSbdZbcTbdYbcVbcZbdSbbIbcIbbNIKOLSBURG OE",
    "bmUEbbObcEEbcObbRUDIMENTA OEblUEbbSHORT ERbbUbcNKbcSbcUaeITALIC LETTER AasBEasCHEasDEasEatF",
    "atKSatLatMatNatRauSatSauHauSasHEasIatIasKAatEatHEatUasNORTHERN TSEasOasPEatHEasSHE",
    "atOUTHERN TSEasTEatHEasUatUasVEasYEasZEalNUMERAL FIFTYavVEatONEatTENaeKEY",
    "aeNORTH ARABIAN LETTER AINbaLEFazBEHazDADbbLazES-1bc2bc3azFEHazGEEMbaHAINazHAHbaEHazKAFbaHAH",
    "azLAMazMEEMazNOONazQAFazREHazSADazTAHbaEHbaHALbbEHazWAWazYEHazZAHbbINasNUMBER ONEazTEN",
    "baWENTYaePERMIC LETTER ANasBURasCHERYasDOIatZHOIauITAasEatFasGAIasHAasIatAatEasKOKEasLEI",
    "asMENOEasNENOEasOatOasPEEIasREIasSHCHOOIauOOIatIIasTAIatSIUasUasVERatOOIasYAauTatERavIavU",
    "atRYatUasZATAatHOIahSIAN NUMBER HUNDREDatONEatTENauWENTYavOamSIGN AasURAMAZDAAbb-2bbHAarBA",
    "atGAasUUMISHarCAarDAatHYAAUSHba-2asIasUarFAarGAasUarHAarIarJAasIarKAasUarLAarMAasIasUarNAasU",
    "arPAarRAasUarSAasHAasSAarTAasHAasUarUarVAasIarXAasSHAAYATHIYAarYAarZAamWORD DIVIDER",
    "aiONAL COMPUTERaeSOGDIAN FRACTION ONE HALFamLETTER ALEPHavTERNATE AYINauYINatBETH",
    "atFINAL ALEPHazBETHazHEazNUNbc WITH VERTICAL TAILazSADHEbe WITH VERTICAL TAILazTAW",
    "bc WITH VERTICAL TAILatGIMELatHEavTHatKAPHatLAMEDHatMEMatNUNatPEatRESH-AYIN-DALETHatSADHE",
    "avMEKHauHINatTAWatWAWatYODHatZAYINanIGATURE AYIN-DALETHamNUMBER FIVEauOURatONEaw HUNDRED",
    "atTENauHIRTYavREEauWENTYavOagUTH ARABIAN LETTER ALEFbaYNazBETHazDALETHbaHADHEbcLETHazFE",
    "azGHAYNbaIMELazHEbbTHazKAPHbaHETHazLAMEDHazMEMazNUNazQOPHazRESHazSADHEbbMEKHbbTbaHINazTAW",
    "baETHbaHAWbbETHazWAWazYODHazZAYNasNUMBER FIFTYazONEavERIC INDICATORaeTURKIC LETTER ORKHON A",
    "baBbaDbaEBbbDbbGbbKbbLbbNbbRbbSbbTbbYbaGbaLbaNbaQbaRbaSbbHbaTbaYazBASHazECbaLTbaMbaNCbbGbbT",
    "bbYbaPbaSHbaZazIbaCbaQazObaEbbKbaPbaQbaTasYENISEI AbbBbbDbbEbcBbcGbcKbcNbdGbcTbcYbbGbbLbbNG",
    "bbQbbRbbSHbbTbbYbaEbbCbbNCbcTbcYbbSHbbZbaIbbQbaOEbcKbbQaeUYGHUR COMBINING DOT ABOVEazBELOW",
    "avTWO DOTS ABOVEbeBELOWalLETTER ALEPHasBETHasFINAL HETHasGIMEL-HETHasKAPHasLAMEDHatESHasMEM",
    "asNUNasPEasRESHasSADHEauMEKHatHINasTAWasWAWasYODHasZAYINalPUNCTUATION BARaxFOUR DOTS",
    "axTWO BARSbbDOTSadER ADULTagMANagWOMANacIVEabM SYMBOL",
    "abN WITH EXCLAMATION MARK WITH LEFT RIGHT ARROW ABOVEacCOMING AUTOMOBILEajBUSajFIRE ENGINE",
    "ajPOLICE CARajTAXIacE BUTTON MOUSEaeDOT LEADERaiOVER TWO DOTS PUNCTUATIONad-PIECE SWIMSUIT",
    "acIONabPEN BOOKahXafCENTRE ASTERISKamBLACK STARamCROSSamTEARDROP-SPOKED ASTERISK",
    "afFILE FOLDERagOLDERafHANDS SIGNafLOCKafMAILBOX WITH LOWERED FLAGasRAISED FLAGafSUBSET",
    "ahPERSETae-CIRCUIT-OUTPUT H-TYPE SYMBOLauL-TYPE SYMBOLafOUTLINED RIGHTWARDS ARROW",
    "adRATING SYSTEM COMMANDacHIUCHUSacPOSITIONacTICAL DISCam ICONaeON KEYabR WITH DOT INSIDE",
    "acANGE BOOKahHEARTafUTANacIGINAL OFadYA AI LENGTH MARKahU LENGTH MARKagDIGIT EIGHTamFIVE",
    "anOURamNINEamONEamSEVENanIXamTHREEanWOamZEROagFRACTION ONE EIGHTHatHALFatQUARTERatSIXTEENTH",
    "apTHREE QUARTERSavSIXTEENTHSagISSHARagLETTER AaoAaoIaoUanBAaoHAanCAaoHAanDAaoDAapHAaoHAanE",
    "anGAaoHAanHAanIaoIanJAaoHAanKAaoHAanLAaoLAanMAanNAaoGAaoNAaoYAanOanPAaoHAanRAaoHAaoRAanSA",
    "aoHAaoSAanTAaoHAaoTAapHAanUaoUanVAaoOCALIC LawLavRawRanWAanYAaoYAagSIGN ANUSVARAamVAGRAHA",
    "alCANDRABINDUalNUKTAalOVERLINEalVIRAMAanSARGAagVOWEL SIGN AAasIasUarEarIasIarOarUasU",
    "arVOCALIC LbaLazRbaRacNATE LEFT PARENTHESISahRIGHT PARENTHESISacTHODOX CROSS",
    "abSAGE CAPITAL LETTER AawHawIaxNavBRAavCHAavDHAavEawHCHAaxKAaxPAaxTAaySAawINavGHAavHAawYAavI",
    "avKAawHAawYAavLAavMAavNAavOawINavPAavSAawHAavTAawSAaxHAavUavWAavZAawHAagSMALL LETTER AauHauI",
    "avNatBRAatCHAatDHAatEauHCHAavKAavPAavTAawSAauINatGHAatHAauYAatIatKAauHAauYAatLAatMAatNAatO",
    "auINatPAatSAauHAatTAauSAavHAatUatWAatZAauHAacCacMANYA DIGIT EIGHTaoFIVEapOURaoNINEaoONE",
    "aoSEVENapIXaoTHREEapWOaoZEROaiLETTER AaqAaqLEFapBAapCAYNapDEELaqHAapEaqEapFAapGAapHAapIapJA",
    "apKAAFaqHAapLAANapMIINapNUUNapOaqOapQAAFapRAapSAaqHIINapTAapUapWAWapXAapYAabTTER",
    "adOMAN SIYAQ ALTERNATE NUMBER EIGHTbfFIVEbgOURbj HUNDREDbfNINEbfSEVENbgIXbi HUNDREDbfTEN",
    "bi THOUSANDbgHREEbgWObi THOUSANDaoFRACTION ONE HALFbbSIXTHaoMARRATANaoNUMBER EIGHTba HUNDRED",
    "bbTHOUSANDbaYbb THOUSANDavFIFTYba THOUSANDaxVEaz HUNDREDbaTHOUSANDawORTYba THOUSANDaxUR",
    "az HUNDREDbaTHOUSANDavNINEaz HUNDREDbaTHOUSANDazTYbb THOUSANDavONEay HUNDREDazTHOUSAND",
    "avSEVENba HUNDREDbbTHOUSANDbaTYbc THOUSANDawIXay HUNDREDazTHOUSANDayTYba THOUSANDavTEN",
    "ay THOUSANDawHIRTYbb THOUSANDaxREEba HUNDREDbbTHOUSANDawWENTYbb THOUSANDaxOay HUNDRED",
    "azTHOUSANDabUNCE SIGNacTBOX TRAYadLINED BLACK STARajGREEK CROSSajLATIN CROSSajWHITE STAR",
    "abVERHEATED FACEaeLAPahPING BLACK SQUARESamWHITE AND BLACK SQUARESasSQUARESafINEabWLabX",
    "abYSTER"]

/-- The names that begin with P. -/
def listP : List String :=
  ["aaPACKAGEacDadDING CHARACTERacGEae FACING UPafWITH CIRCLED TEXTalURLaeRaeSadODA",
    "acHAWH HMONG CLAN SIGN FAJaxHAMazWJaxKHABayOOayWMaxLAUJayISaxMUASaxPHABaxTHOJaySABazHEEJazWB",
    "axVAJayWJaxXYOOJaxYAJayEEGaoONSONANT AUaxCAUayHAUaxHAUayLAUayNAUaxLAUaxMAUaxNAUayCHAUayKAU",
    "ayLAUayTHAUazSAUaxPLHAUaxQHAUaxRAUaxVAUaxXAUaxYAUanDIGIT EIGHTatFIVEauOURatNINEatONEatSEVEN",
    "auIXatTHREEauWOatZEROanMARK CIM HOMawKESaxHAVawSOaxUAMawTAUMaxUBanNUMBER HUNDRED MILLIONSbbS",
    "auMILLIONSauTEN BILLIONSayTHOUSANDSaxSavRILLIONSanSIGN AVasCIM CHEEMaxUAM TSHOOJ",
    "awHAIS LUS NTOG NTOGawNRES TOSawPUB DAWBawTSOV ROGaxXWVba CHWVasHLIatNUBasIB YAMasLOS",
    "asMEEJ SUABaxTSEEBatUSasNQIGatTUJasTAUatHIRD-STAGE HLIatXHEEJ CEEVasVOS FEEMawLUBawNRUA",
    "awSEEVawTHIABayOMaxSHAB CEEBasXAUSatIABatYEEM FAIBayNTXIVayRHOayTOVauOOasZWJ THAJ",
    "anVOWEL KAABawVavBavIBawVavUBawVavVavWBawVauEBavEBawVavVauIABawVavBavVauOBavOBawVavVauUABawV",
    "avBavVauWBavVacLLASadM BRANCHafDOWN HANDafTREEafUP HANDaeS UP TOGETHER",
    "aeYRENE LEFT-POINTING FLEURONamTTER ALEPHasYINarBETHarDALETHarFINAL NUNarGIMELarHEatTHarKAPH",
    "arLAMEDHarMEMarNUNarPEarQOPHarRESHarSADHEatMEKHasHINarTAWasETHarWAWarYODHarZAYIN",
    "akNUMBER FIVEasOURarONEarTENasHREEasWENTYatOakRIGHT-POINTING FLEURONacNCAKESadDA FACE",
    "acPERCLIPacRACHUTEaeGRAPH SEPARATORajOSajUS MARKaeLLEL TOajWITH HORIZONTAL STROKE",
    "aoTILDE OPERATORadENTHESIZED DIGIT EIGHTauFIVEavOURauNINEauONEauSEVENavIXauTHREEavWO",
    "aoHANGUL CHIEUCHbc AawIEUCba AbbUavHIEUHba AavIEUNGba AavKHIEUKHbc AawIYEOKbb AavMIEUMba A",
    "avNIEUNba AavPHIEUPHbc AawIEUPba AavRIEULba AavSIOSaz AavTHIEUTHbc AawIKEUTbb A",
    "aoIDEOGRAPH ALLIANCEayCALLazONGRATULATIONayEARTHazIGHTazNTERPRISEayFESTIVALazINANCIALbaRE",
    "baVEazOURayHAVEayLABORayMETALazOONayNAMEazINEayONEayREACHbaPRESENTbaSOURCEbbTaySELFbaVENazIX",
    "azOCIETYazPECIALazTOCKbaUDYazUNbaPERVISEayTENazHREEazWOayWATERazOODaoKOREAN CHARACTER O HU",
    "bgJEONaoLATIN CAPITAL LETTER AbjBbjCbjDbjEbjFbjGbjHbjIbjJbjKbjLbjMbjNbjObjPbjQbjRbjSbjTbjU",
    "bjVbjWbjXbjYbjZauSMALL LETTER AbhBbhCbhDbhEbhFbhGbhHbhIbhJbhKbhLbhMbhNbhObhPbhQbhRbhSbhTbhU",
    "bhVbhWbhXbhYbhZaoNUMBER EIGHTEENawLEVENavFIFTEENawOURTEENavNINETEENavSEVENTEENawIXTEENavTEN",
    "awHIRTEENawWELVEayNTYadROTadT ALTERNATION MARKaeIAL DIFFERENTIALaiLINE BACKWARDanDOWN",
    "anFORWARDanUPahLY-RECYCLED PAPER SYMBOLaeNERSHIP SIGNaeY POPPERacSSED SYMBOLafNGER SHIP",
    "aeIVE-PULL-DOWN-OUTPUT SYMBOLanUP-OUTPUT SYMBOLaePORT CONTROLacU CIN HAU GLOTTAL STOP",
    "ay FINALazVARIANTamLETTER AatBAatCAauHAatDAatEatFAauINAL KazLazMazNbaGazPazTazWazYatGAatHA",
    "atIauAatKAauHAatLAatMAatNAauGAatOatPAauHAatRAatSAatTAauHAatUauAatVAatZAanOW-FALLING TONE",
    "bc FINALbdLONGbh FINALamMID-LEVEL TONEba FINALbbLONG FINALamRISING TONEax FINALayLONG",
    "bc FINALamSANDHI GLOTTAL STOPbf FINALatTONEax FINALayLONGbc FINALacW PRINTSabDFacI",
    "abEACE SYMBOLaeHaeOCKadNUTSadRacDESTRIANacN OVER STAMPED ENVELOPEadCILadGUINadSIVE FACE",
    "adTAGRAMacOPLE HUGGINGacR MILLE SIGNaeSIGNaeTEN THOUSAND SIGNadCENT SIGNadFORMING ARTS",
    "adMANENT PAPER SIGNadPENDICULARan WITH SadSEVERING FACEaeON BOWING DEEPLYahCLIMBING",
    "ahDOING CARTWHEELahFROWNINGahIN LOTUS POSITIONakSTEAMY ROOM",
    "ahRAISING BOTH HANDS IN CELEBRATIONahWITH BALLanLOND HAIRamCROWNamFOLDED HANDSamHEADSCARF",
    "amPOUTING FACEagAL COMPUTERaePECTIVEacSETA SIGNadO SIGNacTRI DISHabHAGS-PA DOUBLE HEAD MARK",
    "ajLETTER AarLTERNATE YAarSPIRATED FAaqBAaqCAasNDRABINDUarHAaqDAarDAarZAaqEarEaqFAaqGAarGA",
    "aqHAaqIaqJAaqKAarHAaqLAaqMAaqNAarGAarNAarYAaqOaqPAarHAaqQAaqRAaqSAarHAarMALL AaqTAarHAarSA",
    "asHAarTAasHAaqUaqVOICED HAavLESS SHAaqWAaqXAaqYAaqZAarHAajMARK DOUBLE SHADaoSHAD",
    "ajSINGLE HEAD MARKakUBJOINED LETTER RAbaWAbaYAalPERFIXED LETTER RAadISTOS DISC SIGN ARROW",
    "atBEEawHIVEauOOMERANGavWauULLS LEGatCAPTIVEavRPENTRY PLANEavTauHILDauLUBauOLUMNavMB",
    "axINING OBLIQUE STROKEatDOLIUMavVEatEAGLEatFLUTEatGAUNTLETauRATERatHELMETauIDEauORNatLIDavLY",
    "atMANACLESavTTOCKatOX BACKatPAPYRUSauEDESTRIANauLANE TREEavUMED HEADatRAMauOSETTEatSAW",
    "auHIELDawPauLINGauMALL AXEauTRAINERatTATTOOED HEADauIARAauUNNYatVINEatWAVY BANDauOMAN",
    "acILIPPINE DOUBLE PUNCTUATIONalSINGLE PUNCTUATIONacOENICIAN LETTER AINatLFasBETasDELTasGAML",
    "asHEauTasKAFasLAMDasMEMasNUNasPEasQOFasROSHasSADEatEMKatHINasTAUatETasWAUasYODasZAI",
    "alNUMBER ONEav HUNDREDasTENatHREEatWENTYauOalWORD SEPARATORadLUSabICKaeUP TRUCKacEacGad FACE",
    "aeNOSEacLCROW SIGNadE OF POOadLacNATAadCHED FINGERSafING HANDadE DECORATIONaeAPPLE",
    "adWHEEL STARacSCESadTOLacTCHFORKaj WITH TEE TOPabLACARDaeE OF INTEREST SIGNajWORSHIP",
    "adNCK CONSTANTap OVER TWO PIadYGROUND SLIDEaeING CARD ACE OF CLUBSauDIAMONDSauHEARTSauSPADES",
    "anBACKaoLACK JOKERanEIGHT OF CLUBSawDIAMONDSawHEARTSawSPADESanFIVE OF CLUBSavDIAMONDS",
    "avHEARTSavSPADESaoOOLapUR OF CLUBSavDIAMONDSavHEARTSavSPADESanJACK OF CLUBSavDIAMONDS",
    "avHEARTSavSPADESanKING OF CLUBSavDIAMONDSavHEARTSavSPADESaoNIGHT OF CLUBSaxDIAMONDSaxHEARTS",
    "axSPADESanNINE OF CLUBSavDIAMONDSavHEARTSavSPADESanQUEEN OF CLUBSawDIAMONDSawHEARTSawSPADES",
    "anRED JOKERanSEVEN OF CLUBSawDIAMONDSawHEARTSawSPADESaoIX OF CLUBSauDIAMONDSauHEARTSauSPADES",
    "anTEN OF CLUBSauDIAMONDSauHEARTSauSPADESaoHREE OF CLUBSawDIAMONDSawHEARTSawSPADESaoRUMP-1au0",
    "au1au2au3au4au5au6au7au8au9at2au0au1at3at4at5at6at7at8at9aoWO OF CLUBSauDIAMONDSauHEARTS",
    "auSPADESanWHITE JOKERacDacUadNGERadS SIGNaj ABOVE EQUALS SIGNakIN LEFT HALF CIRCLE",
    "anRIGHT HALF CIRCLEanTRIANGLEakWITH BLACK TRIANGLEapCIRCUMFLEX ACCENT ABOVEapDOT BELOW",
    "apSMALL CIRCLE ABOVEaqUBSCRIPT TWOapTILDE ABOVEavBELOWae-MINUS SIGNadTOaf FORM FIVEamOUR",
    "alTHREEamWOabMabOCKET CALCULATORacLICE CARakS REVOLVING LIGHTahOFFICERacODLE",
    "acP DIRECTIONAL FORMATTINGaqISOLATEadCORNacRTABLE STEREOacSEIDONadITION INDICATORadTAL HORN",
    "ahMARKal FACEaeBOXacT OF FOODadABLE WATER SYMBOLaeTOadTED PLANTacUCHadLTRY LEGadND SIGN",
    "adRING LIQUIDadTING CAT FACEaiFACEacWER ON SYMBOLai-OFF SYMBOLagSLEEP SYMBOLahYMBOL",
    "abRAYER BEADSacECEDESai ABOVE ALMOST EQUAL TOapEQUALS SIGNapNOT ALMOST EQUAL TOatEQUAL TO",
    "apSINGLE-LINE EQUALS SIGNbbNOT EQUAL TOajBUT NOT EQUIVALENT TOajOR EQUAL TOapIVALENT TO",
    "ajUNDER RELATIONadGNANT MANajPERSONajWOMANadSCRIPTION TAKEaeENTATION FORM FOR VERTICAL COLON",
    "bhMMAbfEM DASHbgN DASHbgXCLAMATION MARKbfHORIZONTAL ELLIPSISbfIDEOGRAPHIC COMMAbrFULL STOP",
    "bfLEFT ANGLE BRACKETbkBLACK LENTICULAR BRACKETbkCORNER BRACKETblURLY BRACKET",
    "bkDOUBLE ANGLE BRACKETbkPARENTHESISbkSQUARE BRACKETbkTORTOISE SHELL BRACKET",
    "bkWHITE CORNER BRACKETbqLENTICULAR BRACKETbgOW LINEbfQUESTION MARKbfRIGHT ANGLE BRACKET",
    "blBLACK LENTICULAR BRACKETblCORNER BRACKETbmURLY BRACKETblDOUBLE ANGLE BRACKETblPARENTHESIS",
    "blSQUARE BRACKETblTORTOISE SHELL BRACKETblWHITE CORNER BRACKETbrLENTICULAR BRACKETcfKCET",
    "bfSEMICOLONbfTWO DOT LEADERbfWAVY LOW LINEadTZELadVIOUS PAGEacIMEadNCEagSSaeT SCREEN SYMBOL",
    "afERah ICONadVACY MESSAGEafTE USE ONEamTWOal-1am2acOBING CANEadHIBITED SIGNadJECTIVE",
    "adPERTY LINEaeORTIONakAL TOadSERPINAabSALTER PAHLAVI FOUR DOTS WITH CROSSbfDOTaqLETTER ALEPH",
    "axBETHaxDALETHaxGIMELaxHEazTHaxKAPHaxLAMEDHaxMEM-QOPHaxNUNaxPEaxSADHEazMEKHayHINaxTAW",
    "axWAW-AYIN-RESHaxYODHaxZAYINaqNUMBER FOURaxONEba HUNDREDaxTENayHREEayWENTYazOaqSECTION MARK",
    "aqTURNED SECTION MARKabU1ac2acBLIC ADDRESS LOUDSPEAKERacNCTUATION SPACEagS ELEVATUS MARK",
    "acRPLE HEARTadSEacSHPINacT LITTER IN ITS PLACE SYMBOL"]

/-- The names that begin with Q. -/
def listQ : List String :=
  ["aaQUADRANT LOWER LEFTapRIGHTajUPPER LEFTat AND LOWER LEFT AND LOWER RIGHTbeRIGHT",
    "ayUPPER RIGHT AND LOWER LEFTbuRIGHTapRIGHTau AND LOWER LEFTbj AND LOWER RIGHT",
    "afUPLE INTEGRAL OPERATORakPRIMEadRTER NOTEadTERNION INTEGRAL OPERATOR",
    "acESTION EXCLAMATION MARKajMARKaiED EQUAL TOacINCUNXacOTATION MARK"]

/-- The names that begin with R. -/
def listR : List String :=
  ["aaRABBITag FACEacCCOONadING CARahMOTORCYCLEacDICAL SYMBOL BOTTOMaeOaf BUTTONafACTIVE SIGN",
    "acILWAY CARaiTRACKadNaeBOWadSED BACK OF HANDahCOMMAahDOTakTED INTERPOLATION MARKERahFIST",
    "ahHANDal WITH FINGERS SPLAYEDarPART BETWEEN MIDDLE AND RING FINGERSahINTERPOLATION MARKER",
    "ahMC SIGNaiD SIGNaiR SIGNahSQUAREacMacTadIOacZORabECEIPTadORD SEPARATORadREATIONAL VEHICLE",
    "adYCLED PAPER SYMBOLagING SYMBOL FOR GENERIC MATERIALSavTYPE-1 PLASTICSba2 PLASTICS",
    "ba3 PLASTICSba4 PLASTICSba5 PLASTICSba6 PLASTICSba7 PLASTICSacD APPLEaeGIFT ENVELOPE",
    "acFERENCE MARKacGIONAL INDICATOR SYMBOL LETTER AbhBbhCbhDbhEbhFbhGbhHbhIbhJbhKbhLbhMbhNbhO",
    "bhPbhQbhRbhSbhTbhUbhVbhWbhXbhYbhZaeSTERED SIGNacJANG CONSONANT SIGN HawNaxGawRahLETTER AaoBA",
    "aoCAaoDAaoGAaoHAaoJAaoKAaoLAaoMAapBAaoNAapDAapGAaqGAapYAaqJAaoPAaoRAaoSAaoTAaoWAaoYA",
    "ahSECTION MARKahVIRAMAaiOWEL SIGN AIatUasEatAatUasIasOasUacLIEVED FACEacMINDER RIBBON",
    "acPLACEMENT CHARACTERacSPONSEadTRICTED LEFT ENTRY-1aw2afOOMacTURN LEFTahRIGHTahSYMBOL",
    "acVERSE CHECKER BOARDaiINDEXaiLIGHT FOUR POINTED PINWHEEL STARakNE FEEDaiSOLIDUSap OPERATOR",
    "aqPRECEDING SUBSETaqWITH HORIZONTAL STROKEaiTILDE OPERATOR ABOVE LEFTWARDS ARROW",
    "bdRIGHTWARDS ARROWahD ANGLEao WITH UNDERBARajCOMMAajDOUBLE PRIMEav QUOTATION MARK",
    "aqSTROKE NOT SIGNajEMPTY SETajFORKED PARAGRAPHOSajHAND WITH MIDDLE FINGER EXTENDEDajNOT SIGN",
    "ajPILCROW SIGNakRIMEajQUESTION MARKajRAISED HAND WITH FINGERS SPLAYEDakIGHT ANGLE",
    "akOTATED FLORAL HEART BULLETajSANS-SERIF CAPITAL LakEMICOLONajTHUMBS DOWN SIGNaqUP SIGN",
    "akILDEao EQUALSakRIPLE PRIMEajVICTORY HANDadOLVING HEARTSabHINOCEROSabIacAL SIGNacBBON",
    "ag ARROW DOWN LEFTasRIGHTanLEFT DOWNasUPanRIGHT DOWNatUPanUP LEFTaqRIGHTacCE BALLafCRACKER",
    "acFLEacGHT AND LOWER ONE EIGHTH BLOCKakUPPER ONE EIGHTH BLOCKaiGER BUBBLEajLEal BRACKET",
    "at WITH DOTamDOTTED SUBSTITUTION MARKERamSUBSTITUTION MARKERamVARIANT WITH SQUAREamWITH ARC",
    "arDOWNWARDS ZIGZAG ARROWahRC GREATER-THAN BRACKETaiROW WITH CIRCLED PLUSarSMALL CIRCLE",
    "agBLACK LENTICULAR BRACKETamTORTOISE SHELL BRACKETagCEILINGahORNER BRACKETahURLY BRACKET",
    "at LOWER HOOKauMIDDLE PIECEauUPPER HOOKagDOTTED SUBSTITUTION BRACKETaiUBLE ANGLE BRACKET",
    "aoRROW WITH ROUNDED HEADanPARENTHESISanQUOTATION MARKanWIGGLY FENCEagFISH TAIL",
    "aiVE EIGHTHS BLOCKahLOORagHALF BLACK CIRCLEarSTARanOCKalFOLDERalMEDIUM SHADEalRUNNING MAN",
    "aiND TELEPHONE RECEIVERagLOW PARAPHRASE BRACKETagNORMAL FACTOR SEMIDIRECT PRODUCT",
    "agONE EIGHTH BLOCKakQUARTER BLOCKahPEN SQUARED DOTahUTER JOINagPARENTHESISar EXTENSION",
    "asLOWER HOOKasUPPER HOOKagRAISED OMISSION BRACKETagS-SHAPED BAG DELIMITERahEMIDIRECT PRODUCT",
    "aiVEN EIGHTHS BLOCKahIDEWAYS U BRACKETaiNGLE QUOTATION MARKahPEAKERan WITH ONE SOUND WAVE",
    "atTHREE SOUND WAVESajECH BUBBLEahQUARE BRACKETau EXTENSIONavLOWER CORNERavUPPER CORNER",
    "avWITH DOUBLE STROKEbaQUILLbaSTROKEbaTICK IN BOTTOM CORNERbiTOP CORNERbaUNDERBAR",
    "ahUBSTITUTION BRACKETagTACKahHIRD WHITE RIGHT POINTING INDEXaiOUGHT BUBBLE",
    "aiREE EIGHTHS BLOCKamQUARTERS BLOCKahORTOISE SHELL BRACKETahRANSPOSITION BRACKETaiIANGLE",
    "ao ABOVE LEFT TRIANGLEamULAR ONE QUARTER BLOCKagVERTICAL BAR WITH QUILLaqOX LINE",
    "agWHITE CORNER BRACKETanURLY BRACKETamLENTICULAR BRACKETamPARENTHESISamSQUARE BRACKET",
    "amTORTOISE SHELL BRACKETahIGGLY FENCEaf-FACING ARMENIAN ETERNITY SIGNanFISTanSVASTI SIGN",
    "ay WITH DOTSagHANDED INTERLACED PENTAGRAMagPOINTING ANGLE BRACKETapCURVED ANGLE BRACKET",
    "apDOUBLE ANGLE QUOTATION MARKapMAGNIFYING GLASSagSHADED WHITE RIGHTWARDS ARROW",
    "ahIDE ARC CLOCKWISE ARROWagTO-LEFT EMBEDDINGaoISOLATEaoMARKaoOVERRIDEafHAND INTERIOR PRODUCT",
    "afWARDS ARROWaq ABOVE ALMOST EQUAL TOaxREVERSE ALMOST EQUAL TObfTILDE OPERATOR",
    "axSHORT LEFTWARDS ARROWaxTILDE OPERATORasND UPPER AND LOWER ONE EIGHTH BLOCKarFROM BAR",
    "az TO BLACK DIAMONDarOVER LEFTWARDS ARROWarTHROUGH GREATER-THANazSUPERSETazXasO BAR",
    "avLACK DIAMONDarWITH CORNER DOWNWARDSawDOTTED STEMayUBLE VERTICAL STROKE",
    "awEQUILATERAL ARROWHEADawHOOKawLARGE TRIANGLE ARROWHEADaxOOPawMEDIUM TRIANGLE ARROWHEAD",
    "awNOTCHED TAILawPLUS BELOWawSMALL EQUILATERAL ARROWHEADbcTRIANGLE ARROWHEADaxTROKEawTAIL",
    "ba WITH DOUBLE VERTICAL STROKEbgVERTICAL STROKEaxIP DOWNWARDSbaUPWARDSawVERTICAL STROKE",
    "aq-TAILalBACK-TILTED SHADOWED WHITE ARROWamLACK ARROWarCIRCLED WHITE ARROW",
    "amOTTOM SHADED WHITE ARROWalCOMPRESSED ARROWalDASHED ARROWamOUBLE ARROWax FROM BAR",
    "ayWITH STROKEbdVERTICAL STROKEax-TAILasDASH ARROWalFINGER-POST ARROW",
    "amRONT-TILTED SHADOWED WHITE ARROWalHANDanRPOON OVER LEFTWARDS HARPOON",
    "atWITH BARB DOWN ABOVE LEFTWARDS HARPOON WITH BARB DOWNbiBELOW LONG DASHbiFROM BARbiTO BAR",
    "bhWARDSbdUP ABOVE LEFTWARDS HARPOON WITH BARB UPbnONG DASH",
    "bmRIGHTWARDS HARPOON WITH BARB DOWNbgFROM BARbgTO BARbfWARDSamEAVY ARROWarCOMPRESSED ARROW",
    "alLEFT-SHADED WHITE ARROWalOPEN-HEADED ARROWalPAIRED ARROWSalQUADRUPLE ARROW",
    "alRIGHT-SHADED WHITE ARROWamOCKETalSANS-SERIF ARROWamQUARED ARROWaoIGGLE ARROW",
    "alTOP SHADED WHITE ARROWamRIANGLE ARROWHEADat-HEADED ARROW",
    "bg OVER LEFTWARDS TRIANGLE-HEADED ARROWbhTO BARbhWITH BOLD SHAFTbmDOUBLE HORIZONTAL STROKE",
    "btVERTICAL STROKEbmHEAVY SHAFTbmLONG TIP DOWNWARDSbvUPWARDSbmMEDIUM SHAFTbmNARROW SHAFT",
    "bmVERY HEAVY SHAFTbbDASHED ARROWbbPAIRED ARROWSaoPLE ARROWasDASH ARROWamWO HEADED ARROW",
    "ao-HEADED ARROW FROM BARbcWITH DOUBLE VERTICAL STROKEbhTAILbl WITH DOUBLE VERTICAL STROKE",
    "brVERTICAL STROKEbiRIANGLE ARROWHEADSbhVERTICAL STROKEawTRIPLE DASH ARROWalWAVE ARROW",
    "amHITE ARROWaw FROM WALLaxWITHIN TRIANGLE ARROWHEADacNGae ABOVEafBUOYafEQUAL TOafIN EQUAL TO",
    "afOPERATORafPOINTaeED PLANETaeING BELLacSING DIAGONAL CROSSING FALLING DIAGONAL",
    "azSOUTH EAST ARROWabLEacIacMacOabOASTED SWEET POTATOacBOT FACEacCKaeETacLL OF PAPER",
    "aeED-UP NEWSPAPERafR COASTERahSKATEaeING ON THE FLOOR LAUGHINGacMAN AS SIGNagCENTURIAL SIGN",
    "agDENARIUS SIGNahIMIDIA SEXTULA SIGNahUPONDIUS SIGNagNUMERAL EIGHTapLEVENaoFIFTY",
    "at EARLY FORMauTHOUSANDaqVEas HUNDREDatTHOUSANDapOURaoNINEaoONEar HUNDREDaz THOUSAND",
    "asTHOUSANDba C DaoREVERSED ONE HUNDREDaoSEVENapIXar LATE FORMaoTENar THOUSANDapHREEapWELVE",
    "aqOagQUINARIUS SIGNagSEMUNCIA SIGNaiSTERTIUS SIGNaiXTANS SIGNakULA SIGNahILIQUA SIGN",
    "agUNCIA SIGNacOSTERacSEaeTTEacTATED CAPITAL QaiFLORAL HEART BULLETaiHEAVY BLACK HEART BULLET",
    "aiLIGHT FOUR POINTED BLACK CUSPaiWHITE FOUR POINTED CUSPacUND PUSHPINagTARGET",
    "afED SYMBOL FOR CAIatFUatLUatSHOUavUANGXIatXIacWBOATabSabUBLE SIGNacGBY FOOTBALLacLE-DELAYED",
    "acMI DIGIT EIGHTalFIVEamOURalNINEalONEalSEVENamIXalTHREEamWOafFRACTION ONE HALFasQUARTER",
    "asTHIRDaoTWO THIRDSafNUMBER EIGHT HUNDREDarYamFIFTYaoVE HUNDREDanORTYaoUR HUNDRED",
    "amNINE HUNDREDaqTYamONE HUNDREDamSEVEN HUNDREDarTYanIX HUNDREDapTYamTENanHIRTYaoREE HUNDRED",
    "anWENTYaoO HUNDREDacNIC ARLAUG SYMBOLagBELGTHOR SYMBOLagCROSS PUNCTUATIONagLETTER AC AaoESC",
    "aoLGIZ EOLHXaoNSUZ AanBERKANAN BEORC BJARKAN BanCaoALCaoEALCapNaoWEORTHanDaoAGAZ DAEG D",
    "aoOTTED-LauNauPanEaoARaoHWAZ EH EaoNGaoTHanFEHU FEOH FE FaoRANKS CASKET ACbcESCbbEHbbISbbOS",
    "anGaoARaoEBO GYFU GapRanHAEGL HapGLAZ HanICELANDIC-YRaoNGaqWAZaoORaoSAZ IS ISS IaoWAZ EOH",
    "anJERAN JanKaoAUN KarAanLAUKAZ LAGU LOGR LaoONG-BRANCH-AR AEazHAGALL HazMADR MazOSS OazYR",
    "anMANNAZ MAN ManNAUDIZ NYD NAUD NanOaoEaoNaoOaoPEN-PaoS OaoTHALAN ETHEL OanPERTHO PEORTH P",
    "anQanRAIDO RAD REID RanSHapORT-TWIG-AR AayBJARKAN BayHAGALL HayMADR MayNAUD NayOSS OaySOL S",
    "ayTYR TayYRaoIGEL LONG-BRANCH-SOL SaoOWILO SaoTANanTHURISAZ THURS THORNaoIWAZ TIR TYR T",
    "anURUZ UR UanVanWaoUNJO WYNN WanXanYaoRanZagMULTIPLE PUNCTUATIONagSINGLE PUNCTUATION",
    "agTVIMADUR SYMBOLadNERaeING SHIRT WITH SASHacPEE SIGNacSSIAN ASTROLOGICAL SYMBOL BINOVILE",
    "bcNOVILEbcQUINTILEbcSENTAGONbcTREDECILEbcVIGINTILE"]

/-- The names that begin with S. -/
def listS : List String :=
  ["aaS IN TRIANGLEabAFETY PINahVESTacGITTARIUSacILBOATacKE BOTTLE AND CUPacLT SHAKERaeIRE",
    "adUTING FACEacMARITAN ABBREVIATION MARKakLETTER ALAFarBAAasITarDALATarFIarGAMANarINasTasY",
    "arKAAFarLABATarMIMarNUNarQUFarRISHarSHANasINGAATarTAAFasITasSAADIYarYUTarZENakMARK DAGESH",
    "apEPENTHETIC YUTapINar-ALAFapNEQUDAAapOCCLUSIONalODIFIER LETTER EPENTHETIC YUTbaIbaSHORT A",
    "akPUNCTUATION AFSAAQaxNGEDayNAAUaxRKAANUaxTMAAUawBAUawMELODIC QITSAawNEQUDAAawQITSA",
    "awSHIYYAALAAaxOF MASHFAATawTURUawZAEFaxIQAAakVOWEL SIGN AawAavEavIavLONG AbbAbaEbaIbaUavO",
    "awVERLONG AbfAavSHORT AawUKUNavUacNDWICHadS-SERIF HEAVY DOUBLE COMMA QUOTATION MARK ORNAMENT",
    "ayTURNED COMMA QUOTATION MARK ORNAMENTarLOW DOUBLE COMMA QUOTATION MARK ORNAMENT",
    "alINTERROBANG ORNAMENTacRIacTELLITEaj ANTENNAadURNacURASHTRA CONSONANT SIGN HAARUalDANDA",
    "amIGIT EIGHTarFIVEasOURarNINEarONEarSEVENasIXarTHREEasWOarZEROamOUBLE DANDAalLETTER AatAatI",
    "atUasBAatHAasCAatHAasDAatDAauHAatHAasEatEasGAatHAasHAasIatIasJAatHAasKAatHAasLAatLAasMAasNA",
    "atGAatNAatYAasOatOasPAatHAasRAasSAatHAatSAasTAatHAatTAauHAasUatUasVAatOCALIC LbbLbaRbbRasYA",
    "alSIGN ANUSVARAaqCANDRABINDUaqVIRAMAasSARGAalVOWEL SIGN AAaxIaxUawEaxEawIaxIawOaxOawUaxU",
    "awVOCALIC LbfLbeRbfRaeOPODacXOPHONEabCALESadRFacHOOLag SATCHELacIacOOTERadRPIONagUSacREEN",
    "aeWDRIVERadIPT CAPITAL BapEapFapHapIapLapMapPapRahLIGATURE ET ORNAMENTahSMALL EanGanLanO",
    "adOLLadUPLEabEALadTacCOND PLACE MEDALadTION SIGNaeORacDNAacE-NO-EVIL MONKEYadDLINGacGMENT",
    "ahED DIGIT EIGHTaqFIVEarOURaqNINEaqONEaqSEVENarIXaqTHREEarWOaqZEROacLFIEacMICOLON",
    "aeDIRECT PRODUCT WITH BOTTOM CLOSEDaeSEXTILEacPARATED SYMBOL",
    "acRIOUS FACE WITH SYMBOLS COVERING MOUTHadVICE MARKacSAME DOTadQUIQUADRATEacT MINUS",
    "aeTRANSMIT STATEacWING NEEDLEacXTILEabGCabHADOWED WHITE CIRCLEapLATIN CROSSapSTAR",
    "adLLOW PAN OF FOODadMROCKadRADA ABBREVIATION SIGNaiCONTINUATION SIGNaiDANDAajIGIT EIGHT",
    "aoFIVEapOURaoNINEaoONEaoSEVENapIXaoTHREEapWOaoZEROajOUBLE DANDAaiEKAMajXTRA SHORT VOWEL MARK",
    "aiHEADSTROKEaiLETTER AaqAaqIaqUapBAaqHAapCAaqHAapDAaqDAarHAaqHAapEapGAaqHAapHAapIaqIapJAaqHA",
    "apKAaqHAapLAaqLAapMAapNAaqGAaqNAaqYAapOapPAaqHAapRAapSAaqHAaqSAapTAaqHAaqTAarHAapUaqUapVA",
    "aqOCALIC LayLaxRayRapYAaiOMaiSANDHI MARKajECTION MARK-1av2akPARATORajIGN ANUSVARAaoVAGRAHA",
    "anCANDRABINDUanINVERTED CANDRABINDUanJIHVAMULIYAanNUKTAanSIDDHAManUPADHMANIYAanVIRAMAapSARGA",
    "ajUTRA MARKaiVOWEL MODIFIER MARKaoSIGN AAauIauUatEatIauIatOatPRISHTHAMATRA EatUauU",
    "atVOCALIC LbcLbbRbcRaeKadVED ICEaeIAN LETTER ADOaqGEaqHaqIRaqREarRAYaqSHaqWEapBIBapCHURCH",
    "apDEADapEARarTaqGGaqRRapFEEapGAGapHA-HAaqUNGapIANaqCEaqFapJUDGEapKICKapLOLLapMEASUREaqIME",
    "apNUNapOAKaqILaqNaqOZEaqRaqUTapPEEPapROARapSOaqUREapTHEYarIGHaqOTapUPapVOWapWOEarOLapYEAarW",
    "apZOOacEEPacIELDadFT INagOUTadNTO SHRINEadPacOCKED FACE WITH EXPLODING HEADadOTING STAR",
    "adPPING BAGSajTROLLEYadRT BACKSLANTED SOUTH ARROW",
    "ahENT ARROW POINTING DOWNWARDS THEN NORTH EASTagDOWN TACKap WITH OVERBARagLEFT TACK",
    "agRIGHTWARDS ARROW ABOVE LEFTWARDS ARROWagSLANTED NORTH ARROWagUP TACK",
    "an ABOVE SHORT DOWN TACKaoWITH UNDERBARafCAKEafHAND FORMAT CONTINUING OVERLAParDOWN STEP",
    "arLETTER OVERLAParUP STEPafSadULDERED OPEN BOXadWERacRIMPadUGacUFFLE PRODUCTacYabI",
    "acDDHAM DANDAajOUBLE DANDAaiEND OF TEXT MARKaiLETTER AaqAaqIaqLTERNATE UaqUapBAaqHAapCAaqHA",
    "apDAaqDAarHAaqHAapEapGAaqHAapHAapIaqIapJAaqHAapKAaqHAapLAapMAapNAaqGAaqNAaqYAapOapPAaqHAapRA",
    "apSAaqHAaqSAapTAaqHAarREE-CIRCLE ALTERNATE IaqTAarHAaqWO-CIRCLE ALTERNATE IblIapUaqUapVA",
    "aqOCALIC LayLaxRayRapYAaiREPETITION MARK-1ay2ay3aiSECTION MARK DOUBLE RINGbg WITH RAYS",
    "avWITH CIRCLES AND FOUR ENCLOSURESbmRAYSbmTWO ENCLOSURESbaDOUBLE CRESCENTS",
    "baQUADRUPLE CRESCENTSbaRAYS AND DOTTED CRESCENTSbqDOUBLE CRESCENTSbqTRIPLE CRESCENTS",
    "baSEPTUPLE CRESCENTSbaTRIDENT AND DOTTED CRESCENTSbmU-SHAPED ORNAMENTSbdPLE CRESCENTS",
    "akPARATOR BARasDOTajIGN ANUSVARAanCANDRABINDUanNUKTAanSIDDHAManVIRAMAapSARGAaiVOWEL SIGN AA",
    "auIauLTERNATE UbeUauUatEatIauIatOatUauUatVOCALIC RbcRadEWAYS BLACK DOWN POINTING INDEX",
    "apLEFT POINTING INDEXapRIGHT POINTING INDEXapUP POINTING INDEXajWHITE DOWN POINTING INDEX",
    "apLEFT POINTING INDEXapRIGHT POINTING INDEXapUP POINTING INDEXacGN OF THE HORNS",
    "aeWRITING AIR BLOW SMALL ROTATIONSauING OUTaqSUCK SMALL ROTATIONSauING INamBREATH EXHALE",
    "atINHALEaoUSH BETWEENasMULTIPLEasSINGLEamCHEEKS NEUTRALatPUFFEDatSUCKEDanOLONaoMMA",
    "amDREAMY EYEBROWS DOWN NEUTRALbcNEUTRAL DOWNbkUPbcUP NEUTRALanYNAMIC ARROWHEAD LARGEbeSMALL",
    "auEVERY OTHER TIMEauFASTauGRADUALauRELAXEDauSIMULTANEOUSbg ALTERNATINGavLOWauTENSEamEARS",
    "anXCITEMENTanYE BLINK MULTIPLEawSINGLEaqWINKapBROWS STRAIGHT DOWNbeNEUTRALbeUP",
    "apGAZE-FLOORPLANE CURVEDbfSTRAIGHTbn ALTERNATINGboDOUBLEauWALLPLANE CIRCLINGbfURVED",
    "beSTRAIGHTbm ALTERNATINGbnDOUBLEapLASHES DOWNawFLUTTERINGawUPapS CLOSEDarHALF CLOSEDawOPEN",
    "arOPENarSQUEEZEDarWIDE OPENavNING MOVEMENTamFACE DIRECTION POSITION NOSE FORWARD TILTING",
    "bpUP OR DOWNbz TILTINGanILL MODIFIER-2ba3ba4ba5ba6aoNGERanLICK LARGE MULTIPLEaySINGLE",
    "asSEQUENTIALatMALL MULTIPLEaySINGLEaoOORPLANE SHOULDER HIP MOVEanOREHEAD CONTACTavNEUTRAL",
    "avWRINKLEDanULL STOPamGRASP BETWEENasMULTIPLEasSINGLEamHAIRaoND-ANGLEaw INDEX",
    "bc MIDDLE LITTLEbkRINGbdRING LITTLEbo OUTbdTHUMBbi INbjOUTaxLITTLE INDEXbj THUMB INDEX THUMB",
    "cb OUTbeUPaxMIDDLE RING LITTLEbp INbqOUTaxRING DOWN MIDDLE THUMB INDEX CROSSbcLITTLEarCIRCLE",
    "ax INDEXbd BENTbeHINGEbeMIDDLEbk CROSS LITTLEbqEDblLITTLEblRINGblTHUMBbeRING LITTLE",
    "ayLITTLE INDEXbfUPayMIDDLE RING LITTLEbq BENTbfUPayRING LITTLEasLAWav FOUR FINGERS CONJOINED",
    "awINDEX THUMB CURVE THUMB INSIDEawMIDDLE RING LITTLE CONJOINEDby SIDEawNO THUMB",
    "awTHUMB FORWARDbcSIDEasUPau FIVE FINGERS SPREADbo OPENavINDEXba RING LITTLEbbTHUMBbg OPEN",
    "avMIDDLE RING LITTLEavNO THUMBavOPENaz NO THUMBbaTHUMB FORWARDbgSIDEavTHUMB FORWARDbbSIDE",
    "atRLICUEaz INDEX RING LITTLE ONbaMIDDLE RING LITTLE ONbaOPENarFIST",
    "av FOUR FINGERS CONJOINED BENTawHEELawINDEXbb BENTbg OVER MIDDLEbcCUPPEDbcHINGEDbi LOW",
    "bjMIDDLE UPbs THUMB SIDEbcMIDDLEbi BENTbn THUMB STRAIGHTbjCONJOINEDbs CUPPEDbz THUMB FORWARD",
    "btHINGEDbz THUMB SIDEbtINDEX BENTbtMIDDLE BENTbtTHUMB FORWARDbzSIDEcd BENTceCONJOINED",
    "bkROSS LITTLEboEDbq THUMB SIDEbjHINGEDbp SPREAD THUMB SIDEbjLITTLEbjRAISED KNUCKLESbkING",
    "bn BENTboCONJOINEDbjSTRAIGHT THUMB BENTbjTHUMBbo ANGLEDbv OUTbpBENTbpCIRCLED",
    "bqONJOINED HINGEDbqUPPEDbpHINGEDbqOOKEDbjUP SPREAD THUMB FORWARDbcRAISED KNUCKLEbdING LITTLE",
    "bcTHUMB ANGLED IN MIDDLE UPbpOUT MIDDLE UPbiCIRCLEboD MIDDLE UPbjUPPED MIDDLE UPbkRLICUE",
    "blVE THUMB INSIDEbuUNDERbiFORWARD INDEX BENTbwSTRAIGHTbiHOOKbmED MIDDLE HINGEDbwUPbiSIDE",
    "bm BOTH BENTbnINDEX BENTbtHINGEbnTHUMB BENTbtCONJOINEDbtDIAGONALbcUP MIDDLE HINGED",
    "bs THUMB CONJOINEDbzSIDEawLITTLE BENTbdDOWNbh OTHERS CIRCLEDbiRIPPLE CURVEDbpSTRAIGHTbdINDEX",
    "bi THUMBbdRAISED KNUCKLEbdTHUMBbeOUCHES THUMBbdUPawMIDDLE BENT OVER INDEXbdDOWNbdLITTLE",
    "bdRAISED KNUCKLEbeING LITTLEbdTHUMB ANGLED INDEX UPbqOUT INDEX CROSSEDcaUP",
    "bjCIRCLED INDEX HINGEDbxUPbkUPPED INDEX UPbjHOOKED INDEX UPbjLITTLEbdUPbf THUMB SIDE",
    "awRING DOWNbbINDEXbbLITTLEbbMIDDLEbh CONJOINEDbiRAISED KNUCKLESbbRAISED KNUCKLEbbTHUMBbbUP",
    "awTHUMBbb BETWEEN INDEX MIDDLEbw STRAIGHTbkMIDDLE RINGbkRING LITTLEbcFORWARDbcHEEL",
    "bcOVER FOUR RAISED KNUCKLESbhTWO FINGERSbcSIDE BENTbhCONJOINEDbhDIAGONALbcUNDER FOUR FINGERS",
    "biINDEX BENTbiLITTLE UPbiTHREE FINGERSbjWO FINGERSasLATav BETWEEN PALM FACINGS",
    "awFIVE FINGERS SPREADbp BENTbqFOUR BENTbqHINGEDbw NO THUMBbxTHUMB SIDEbqTHUMB FORWARD",
    "axOUR FINGERSbi BENTbjCONJOINEDbs SPLITbjHINGEDawHEELba FIVE FINGERS SPREADbu BENT",
    "bvFOUR BENTbbTHUMB SIDEawSPLIT CENTREbi THUMB SIDEbt BENTbcINDEX THUMB SIDEbcLITTLE",
    "awTHUMB BENTbcFORWARDbcSIDEarHINGEaw FIVE FINGERS SPREAD OPENayOUR FINGERS CONJOINEDaxINDEX",
    "bc HINGEDbdMIDDLE LITTLEbkRINGbo CONJOINEDbdRING LITTLEbdTHUMBbi LARGEbjOPENbjSIDEbkMALL",
    "axLITTLEbd INDEXbj THUMBbeTHUMBaxMIDDLEbd RING LITTLEaxNO THUMBaxOPENbb NO THUMB",
    "bcTHUMB FORWARDbiSIDEaxRINGbb DOWN INDEX THUMB HOOK MIDDLEaxSMALLaxTHUMB BETWEEN MIDDLE RING",
    "bdSIDEbh TOUCHING INDEXasOOKav CURLICUEawINDEX RING LITTLE INboOUTboUNDER",
    "awMIDDLE RING LITTLE CONJOINEDby INbzOUTbdTHUMBawRING THUMBarOVALav FIVE FINGERS SPREAD",
    "awINDEXawLITTLE UPawNO THUMBawRING LITTLEawTHUMB FORWARDbcSIDEanEADaq MOVEMENT CIRCLE",
    "az-FLOORPLANE CURVEblSTRAIGHTbaWALLPLANE CURVEbkSTRAIGHTbkTILTarRIMamLIMB COMBINATION",
    "arLENGTH-1ay2ay3ay4ay5ay6ay7aoP LOWER OVER UPPERaqUPPER OVER LOWERapS PRESSED TOGETHER",
    "anOCATION DEPTHavHEAD NECKaxIGHTavLIMBS DIGITSavTORSOavWIDTHau-FLOORPLANE SPACE",
    "avWALLPLANE SPACEamMOUTH CLOSED CONTACTazFORWARDazNEUTRALatORNERSasFROWNax OPENayWRINKLED",
    "asKISSaw FORWARDaxWRINKLEDasOPEN CIRCLEaxFORWARDaxOVALbb WRINKLEDbcYAWNaxRECTANGLE",
    "bg WRINKLEDbhYAWNaxWRINKLEDasSMILEax OPENayWRINKLEDasTENSEax FORWARDaySUCKED",
    "asWRINKLES DOUBLEbbSINGLEaoVEMENT-DIAGONAL AWAY LARGEboSTbjMEDIUMbjSMALLbeBETWEEN AWAY LARGE",
    "bwSTbrMEDIUMbrSMALLbmTOWARDS LARGEbzSTbuMEDIUMbuSMALLbeTOWARDS LARGEbrSTbmMEDIUMbmSMALL",
    "avFLOORPLANE ARM CIRCLE HITTING WALL LARGE DOUBLEckSINGLEceMEDIUM DOUBLEclSINGLE",
    "ceSMALL DOUBLEckSINGLEbgBENDbhOX LARGEbkMEDIUMbkSMALLbgCHECKbhORNER LARGEbnMEDIUMbnSMALL",
    "bhROSSbhURVE COMBINEDbmHITTING CEILING LARGEccSMALLbuFLOOR LARGEcaSMALLbmLARGEbrSTbmMEDIUM",
    "bmSMALLbgDOUBLE ALTERNATINGby WRIST FLEXbnSTRAIGHTbnWRIST FLEX",
    "bgFINGER CIRCLES HITTING WALL DOUBLEciSINGLEboONTACTbgHUMP HITTING CEILING LARGE DOUBLE",
    "chTRIPLEcbSMALL DOUBLEchTRIPLEbtFLOOR LARGE DOUBLEbzSMALL DOUBLEbzTRIPLE LARGE TRIPLE",
    "cgSMALL TRIPLEblSMALLbgJAWbgLOOP HITTING CEILING LARGE DOUBLEchSINGLEcbSMALL DOUBLEchSINGLE",
    "btFLOOR LARGE DOUBLEcfSINGLEbzSMALL DOUBLEcfSINGLEblSMALLbgPEAKS LARGEbmMEDIUMbmSMALL",
    "bgSHAKING PARALLELbhINGLE STRAIGHT LARGEcbSTbwMEDIUMbwSMALLbnWRIST FLEX",
    "bgTRIPLE ALTERNATING MOVEMENTbzWRIST FLEXbnSTRAIGHT MOVEMENTbnWRIST FLEX",
    "bgWAVE HITTING CEILING LARGEcbSMALLbtFLOOR LARGEbzSMALLblLARGEblSMALLbmNAKE",
    "bhRIST CIRCLE HITTING WALL DOUBLEcgSINGLEbgZIGZAG LARGEbnMEDIUMbnSMALL",
    "avHINGE DOWN SEQUENTIALbbSIDE TO SIDE SCISSORSbbUP DOWN ALTERNATING LARGEbvSMALLbjLARGE",
    "bjSMALLbeSEQUENTIALavWALLPLANE ARM CIRCLE MEDIUM DOUBLEbxSINGLEbqSMALL DOUBLEbwSINGLE",
    "bfBEND LARGEbkMEDIUMbkSMALLbgOX LARGEbjMEDIUMbjSMALLbfCHECK LARGEblMEDIUMblSMALL",
    "bgORNER LARGEbmMEDIUMbmROTATIONbmSMALLbgROSSbgURVE HALF-CIRCLE LARGEccSTbxMEDIUMbxSMALL",
    "bmITTING CHESTbtFRONT WALLblQUARTER LARGEbySTbtMEDIUMbtSMALLblTHEN STRAIGHT",
    "bnREE-QUARTER CIRCLE MEDIUMcgSMALLbkD CROSS MEDIUMbsSMALLbfDOUBLE ALTERNATINGbx WRIST FLEX",
    "bmSTRAIGHTbmWRIST FLEXbfFINGER CIRCLES DOUBLEbuSINGLEbnONTACTbfHUMP HITTING CHEST",
    "bsFRONT WALLbkLARGEbkMEDIUMbkSMALLbfJAWbfLOOP HITTING CHESTbsFRONT WALLbkLARGEbkMEDIUM",
    "bkSMALLbp DOUBLEbfPEAKS LARGEblMEDIUMblSMALLbfSHAKINGbgINGLE STRAIGHT LARGEcaSTbvMEDIUM",
    "bvSMALLbmWRIST FLEXbfTRIPLE ALTERNATINGbx WRIST FLEXbmSTRAIGHT MOVEMENTbmWRIST FLEX",
    "bfWAVE CURVE DOUBLE LARGEbxMEDIUMbxSMALLbqTRIPLE LARGEbxMEDIUMbxSMALLbkDIAGONAL PATH LARGE",
    "byMEDIUMbySMALLbkHITTING CHESTbsFRONT WALLbgRIST CIRCLE FRONT DOUBLEbySINGLEbfZIGZAG LARGE",
    "bmMEDIUMbmSMALLamNECKanOSE CONTACTarNEUTRALarWIGGLESasRINKLESamPARENTHESIS",
    "amROTATION MODIFIER-10bf1bf2bf3bf4bf5bf6be2be3be4be5be6be7be8be9au-FLOORPLANE ALTERNATING",
    "br HITTING CEILINGcaFLOORbgDOUBLEbm HITTING CEILINGbvFLOORbgSINGLEbm HITTING CEILINGbvFLOOR",
    "avWALLPLANE ALTERNATEbnING HITTING CHESTbzFRONT WALLbfDOUBLEbl HITTING CHESTbuFRONT WALL",
    "bfSINGLEbl HITTING CHESTbuFRONT WALLanUB BETWEENaqMULTIPLEaqSINGLEamSEMICOLON",
    "anHOULDER HIP POSITIONSazSPINEavTILTING FROM WAISTanQUEEZE FLICK ALTERNATINGauLARGE MULTIPLE",
    "baSINGLEauSEQUENTIALavMALL MULTIPLEbaSINGLEanTRIKE BETWEENatMULTIPLEatSINGLEanURFACE BETWEEN",
    "auSYMBOLSamTEETHar BITE LIPSasMOVEMENTasON LIPSaz MOVEMENTavTONGUEbb MOVEMENT",
    "aoNSE CHEEKS HIGHazLOWazMIDDLEanONGUE CENTRE INSIDE MOUTHbaSTICKING OUT",
    "atINSIDE MOUTH RELAXEDatLICKING LIPSatMOVES AGAINST CHEEKatSTICKING OUT FAR",
    "atTIP BETWEEN LIPSaxTOUCHING INSIDE MOUTHaoRSO-FLOORPLANE TWISTINGasWALLPLANE CURVED BEND",
    "bcSTRAIGHT STRETCHaoUCH BETWEENasMULTIPLEasSINGLE",
    "anRAVEL-FLOORPLANE ROTATION-FLOORPLANE ALTERNATINGbyDOUBLEbySINGLEbnWALLPLANE ALTERNATING",
    "bxDOUBLEbxSINGLEbeSHAKINGatWALLPLANE ARM SPIRAL DOUBLEboSINGLEboTRIPLE",
    "bdROTATION-FLOORPLANE ALTERNATINGbxDOUBLEbxSINGLEbmWALLPLANE ALTERNATINGbwDOUBLEbwSINGLE",
    "bdSHAKINGamUPPER BODY TILTING FROM HIP JOINTSamWALLPLANE SHOULDER HIP MOVE",
    "acLHOUETTE OF JAPANacMILAR ABOVE GREATER-THAN ABOVE EQUALS SIGNaoLESS-THAN ABOVE EQUALS SIGN",
    "aiMINUS SIMILARaiOR GREATER-THANalLESS-THANacNE WAVEadGLE CHARACTER INTRODUCER",
    "ahGRAPHIC CHARACTER INTRODUCERahHIGH-REVERSED-9 QUOTATION MARK",
    "ahLEFT-POINTING ANGLE QUOTATION MARKaiOW-9 QUOTATION MARK",
    "ahRIGHT-POINTING ANGLE QUOTATION MARKahSHIFT THREEaoWOag-SHIFT-2an3",
    "adHALA ARCHAIC DIGIT EIGHTawFIVEaxOURawNINEawONEawSEVENaxIXawTHREEaxWOaqNUMBER EIGHTYaxFIFTY",
    "ayORTYaxNINETYaxONE HUNDREDbbTHOUSANDaxSEVENTYayIXTYaxTENayHIRTYayWENTYaiLETTER AAYANNA",
    "aqEEYANNAarYANNAaqIYANNAaqLPAPRAANA BAYANNAbaCAYANNAbaDAYANNAbbDAYANNAbaGAYANNAbaJAYANNA",
    "baKAYANNAbaPAYANNAbaTAYANNAbbTAYANNAaqMBA BAYANNAaqUYANNAaqYANNAapDANTAJA LAYANNAaxNAYANNA",
    "axSAYANNAapEEYANNAaqYANNAapFAYANNAapHAYANNAapIIYANNAaqLUUYANNAasYANNAaqRUUYANNAasYANNA",
    "aqYANNAapKANTAJA NAASIKYAYAapMAHAAPRAANA BAYANNAbbCAYANNAbbDAYANNAbcDAYANNAbbGAYANNA",
    "bbJAYANNAbbKAYANNAbbPAYANNAbbTAYANNAbcTAYANNAarYANNAaqUURDHAJA LAYANNAazNAYANNAazSAYANNA",
    "apOOYANNAaqYANNAapRAYANNAapSANYAKA DAYANNAayDAYANNAaxGAYANNAaxJAYANNAapTAALUJA NAASIKYAYA",
    "axSANYOOGA NAAKSIKYAYAazYANNAapUUYANNAaqYANNAapVAYANNAapYAYANNAajITH DIGIT EIGHTatFIVEauOUR",
    "atNINEatONEatSEVENauIXatTHREEauWOatZEROaiPUNCTUATION KUNDDALIYAaiSIGN AL-LAKUNAaoNUSVARAYA",
    "anCANDRABINDUanVISARGAYAaiVOWEL SIGN AELA-PILLAatDIGA AEDA-PILLAayGAETTA-PILLAbaYANUKITTA",
    "ayIS-PILLAayKOMBUVAayPAA-PILLAatGAETTA-PILLAavYANUKITTAatKETTI AEDA-PILLAazIS-PILLA",
    "azPAA-PILLAauOMBU DEKAayVAba HAA AELA-PILLAbfDIGA AELA-PILLAbfGAYANUKITTA",
    "acX PETALLED BLACK AND WHITE FLORETTEafOINTED BLACK STARamPINWHEEL STAR",
    "amSTAR WITH MIDDLE DOTad-PER-EM SPACEadTEEN POINTED ASTERISKabKATEBOARDacI AND SKI BOOTadER",
    "acULLaf AND CROSSBONESadNKabLANTED EQUAL TO OR GREATER-THANbg WITH DOT INSIDEauLESS-THAN",
    "bd WITH DOT INSIDEaiNORTH ARROW WITH HOOKED HEADbbRIZONTAL TAILadVONIC ASTERISKacED",
    "adEPING ACCOMMODATIONajFACEajSYMBOLafY FACEadUTH OR SPYacICE OF PIZZAadGHTLY FROWNING FACE",
    "ajSMILING FACEacOPEaeING LARGE ANDaoORadT MACHINEaeHabMALL AIRPLANEahMPERSANDahSTERISK",
    "agBLUE DIAMONDagCOLONaiMMAakERCIAL ATaiNTAINS AS MEMBERapWITH OVERBAR",
    "auVERTICAL BAR AT END OF HORIZONTAL STROKEagDOLLAR SIGNagELEMENT OFaq WITH OVERBAR",
    "awVERTICAL BAR AT END OF HORIZONTAL STROKEahM DASHahQUALS SIGNahXCLAMATION MARKagFULL STOP",
    "agGREATER-THAN SIGNagHYPHEN-MINUSagIDEOGRAPHIC COMMAagLEFT CURLY BRACKETalPARENTHESIS",
    "alTORTOISE SHELL BRACKETaiSS-THAN SIGNagNUMBER SIGNagORANGE DIAMONDagPERCENT SIGNahLUS SIGN",
    "agQUESTION MARKagREVERSE SOLIDUSahIGHT CURLY BRACKETamPARENTHESISamTORTOISE SHELL BRACKET",
    "ahOMAN NUMERAL EIGHTavLEVENauFIFTYawVEay HUNDREDavOURauNINEauONEax HUNDREDayTHOUSANDauSEVEN",
    "avIXauTENavHREEavWELVEawOagSEMICOLONagTILDEahWO DOTS OVER ONE DOT PUNCTUATION",
    "agVEE WITH UNDERBARafER THANam OR EQUAL TOadSH PRODUCTacILE",
    "aeING CAT FACE WITH HEART-SHAPED EYESawOPEN MOUTHaiFACE WITH HALOatEART-SHAPED EYESatORNS",
    "asOPEN MOUTHbc AND COLD SWEATbhSMILING EYESbhTIGHTLY-CLOSED EYESasSMILING EYES",
    "be AND HAND COVERING MOUTHbjTHREE HEARTSatUNGLASSESasTEARadRKING FACEacOKING SYMBOLabNAIL",
    "adKEacEEZING FACEacOW CAPPED MOUNTAINaeBOARDERaeFLAKEaeMANah WITHOUT SNOWabOacCCER BALLadKS",
    "acFT HYPHENafICE CREAMafSHELL FLOPPY DISKaeBALLaeWARE-FUNCTION SYMBOL",
    "acGDIAN COMBINING CURVE ABOVEayBELOWasDOT ABOVEawBELOWasHOOK ABOVEaxBELOWasLONG HOOK BELOW",
    "asRESH BELOWasSTROKE BELOWasTWO DOTS ABOVEbbBELOWaiINDEPENDENT SHINaiLETTER ALEPHaqYINapBETH",
    "apFETHapGIMELapHEarTHapKAPHapLAMEDHaqESHapMEMapNUNapPEapRESH-AYINapSADHEarMEKHaqHINapTAW",
    "apWAWapYODHapZAYINaiNUMBER ONEas HUNDREDapTENaqWENTYaiPUNCTUATION CIRCLE WITH DOT",
    "auHALF CIRCLE WITH DOTauTWO CIRCLES WITH DOTSayVERTICAL BARSbl WITH DOTSacH",
    "acLID QUILT SQUARE ORNAMENTbb IN BLACK SQUAREafUSah WITH OVERBARacM SIGN",
    "acON WITH RIGHTWARDS ARROW ABOVEacRA SOMPENG DIGIT EIGHTatFIVEauOURatNINEatONEatSEVENauIX",
    "atTHREEauWOatZEROanLETTER AHauBAHauCAHauDAHauEEHavHauGAHauHAHauIHauJAHauKAHauLAHauMAEawH",
    "auNAHavGAHavYAHauOHauPAHauRAHauSAHauTAHauUHauVAHauYAHacSacUND RECORDING COPYRIGHT",
    "adTH EAST ARROWaq AND SOUTH WEST ARROWarCROSSING NORTH EAST ARROWarTO CORNERarWITH HOOK",
    "alBLACK ARROWalDOUBLE ARROWalPOINTING BUDauLEAFauVINE LEAFalSANS-SERIF ARROW",
    "alTRIANGLE-HEADED ARROWbg TO BARalWHITE ARROWagWEST ARROWaq AND NORTH WEST ARROWarWITH HOOK",
    "alBLACK ARROWalDOUBLE ARROWalPOINTING BUDauLEAFauVINE LEAFalSANS-SERIF ARROW",
    "alTRIANGLE-HEADED ARROWbg TO BARalWHITE ARROWacYOMBO CLUSTER-INITIAL LETTER LAbfRAbfSAbgHA",
    "aiFINAL CONSONANT SIGN -AbdBbdDbdGbdKbdLbdMbdNbeGbdRbdSbeHaiGEMINATION MARK",
    "aiHEAD MARK WITH MOON AND SUNbj AND FLAMEboTRIPLE FLAMEaiLETTER -AapAapBAaqHAapCAaqHAapDA",
    "aqDAarHAaqHAaqZAapGAaqHAapHAapJAaqHAapKAaqHAaqSSAapLAapMAapNAaqGAaqNAaqYAapPAaqHAapRAapSA",
    "aqHAaqSAapTAaqHAaqSAarHAaqTAarHAapVAapYAapZAaqHAaiMARK DOUBLE SHADanPLUTAanSHADanTSHEG",
    "aiSIGN ANUSVARAanJIHVAMULIYAanUPADHMANIYAanVISARGAajUBJOINERaiTERMINAL MARK-1aw2",
    "aiVOWEL LENGTH MARKaoSIGN AIauUatEatIatOauEatUauEatVOCALIC LbbRabPacAadCEadGHETTIadRKLEahS",
    "agING HEARTacEAK-NO-EVIL MONKEYafERah WITH CANCELLATION STROKEanONE SOUND WAVE",
    "anTHREE SOUND WAVESafING HEAD IN SILHOUETTEadECH BALLOONaeDBOATadSMILO SIGNacHERICAL ANGLE",
    "ap OPENING LEFTayUPacIDERag WEBadRAL CALENDAR PADahNOTE PADahSHELLacLASHING SWEAT SYMBOL",
    "acONGEadOL OF THREADaeNadRTS MEDALadUTING WHALEabQUARE A OVER MaiARUaiMaiNPEAaiPAATOaiRUHUA",
    "aiUahBAARERUajRaiEETAaiIRUaiORUTOaiQaiUSSYERUahC OVER KGaiALajPaiCaiDaiMaj CUBEDakSQUAREDaiO",
    "ajRPORATIONaiUPahDAajASUaiBaiESIaiJaiLaiMaj CUBEDakSQUAREDaiORUahEEKAAaiRA NAME HEISEI",
    "aqMEIZIaqREIWAaqSYOUWAaqTAISYOUajGaiSUKUUDOaiVahFMaiOOTajUR CORNERSahGALajNMAajRONaiBaiHZ",
    "aiIGAajNIIajRUDAAaiPAaiURAMUanTONaiYahHAajITUaiEKUTAARUajRUTUaiGaiIRAGANA HOKAaiONajONakRU",
    "aiPajAaiUARADDOajIITOajRANaiZahIMAGE OFap OR EQUAL TOatNOT EQUAL TOaiNajINGUajTIaiUahK OHM",
    "aiAajIRIajRATTOakORIIaiBaiCALaiEESUaiGaiHZaiIROalGURAMUalMEETORUalWATTOaiKaiLaiMaj CAPITAL",
    "alUBEDakSQUAREDaiOOPOajRUNAaiPAaiTaiUROONEakUZEIROaiVaiWaiYURIIahLEFT OPEN BOX OPERATORaiM",
    "aiNaiOGajZENGEaiXahM CUBEDajOHMakVER Sap SQUAREDajSQUAREDaiAajHHAajIKUROakRUajNSYONajRUKUaiB",
    "aj SMALLaiEETORUajGAalTONaiGaiHZaiIKURONajLajRIalBAARUaiLaiMaj CUBEDakSQUAREDaiOLaiPAaiS",
    "aiU AakFakGakLakMakSakVakWaiVaj MEGAaiWaj MEGAahNAajNOaiFaiMaiOTTOaiSaiVaiWahONSUaiOMU",
    "aiRIGINAL OFas OR EQUAL TOawNOT EQUAL TOaiVahPAaj AMPSajASENTOakTUaiCaiEEZIajNIHIakSUajSOaiF",
    "aiHaiIASUTORUajKOakURUaiMaiOINTOajNDOajSITION INDICATORaiPMaiRaiSaiVaiWahRADak OVER S",
    "ar SQUAREDaiEMUajNTOGENaiIGHT OPEN BOX OPERATORajRAajTTORUaiOOTaiUPIIajUBURUahSAIKURU",
    "ajNTIIMUaiENTIalOaiIRINGUaiRaiVahTARGETaiHZaiONahUONahV OVER MahWATTOaiB",
    "aiITH BOTTOM HALF BLACKamCONTOURED OUTLINEamDIAGONAL CROSSHATCH FILLamHORIZONTAL FILL",
    "amLEFT HALF BLACKanOWER LEFT DIAGONAL HALF BLACKasRIGHT DIAGONAL HALF BLACK",
    "amORTHOGONAL CROSSHATCH FILLamRIGHT HALF BLACKamTOP HALF BLACK",
    "amUPPER LEFT DIAGONAL HALF BLACKaxTO LOWER RIGHT FILLasRIGHT DIAGONAL HALF BLACK",
    "ayTO LOWER LEFT FILLamVERTICAL FILLahYAADOakRUaiUANagD ASTERISKaiCJK UNIFIED IDEOGRAPH-4E00",
    "bh9bg2Dbg8CbgA4be518Dbf21Dbg4Dbg72bf3CCbgF3bf408bg39bf5B6bf8F0bf91Abg29bfB57bfDE6bfF8Cbe624B",
    "bg53bg95bf307bg55bf599bgB0bf620bf708bh9bfE80bfF14be7121bf51Fbg33bf981bfA7AbfD42be89E3bfCA9",
    "bfD70be904Abf14DajLajOOLaiDOT OPERATORaiEIGHT KaiFALLING DIAGONAL SLASHajIVE POINT ONE",
    "ajOUR DOT PUNCTUATIONanKajREEaiHCajDRajI-RESajVaiIDaiKATAKANA DEarKOKOarSAajEY",
    "aiLATIN CAPITAL LETTER AbdBbdCbdDbdEbdFbdGbdHbdIbdJbdKbdLbdMbdNbdObdPbdQbdRbdSbdTbdUbdVbdW",
    "bdXbdYbdZaoSMALL LETTER DajOGICAL ANDaqORakSSLESSaiMINUSajVaiNEWajGaiOKajNE HUNDRED TWENTY P",
    "aiPLUSajPVaiRISING DIAGONAL SLASHaiSALTIREajDajECOND SCREENakVEN POINT ONEajHVajIXTY P",
    "ajMALL CIRCLEajOSajQUAREajSaiTHREE DajIMESajWENTY-TWO POINT TWOakO KaiUHD",
    "ajP WITH EXCLAMATION MARKaiVODajSaiWCaeT BLACK RIGHTWARDS ARROWadIDabS2ac3acAabTacADIUM",
    "adFF OF AESCULAPIUSajHERMESadMPED ENVELOPEadNDING PERSONadR AND CRESCENTafEQUALSafOF DAVID",
    "agPERATORafWITH LEFT HALF BLACKakRIGHT HALF BLACKaeT OF GUARDED AREAajHEADING",
    "ajPROTECTED AREAajSELECTED AREAakTRINGajTEXTadTIONaeUE OF LIBERTYacEAM LOCOMOTIVEafING BOWL",
    "adNOGRAPHIC FULL STOPadTHOSCOPEacICK FIGUREam LEANING LEFTavRIGHTanWITH ARMS RAISEDasDRESS",
    "acOCK CHARTadPWATCHacRAIGHT RULERaiNESSaeWBERRYadESS OUTLINED WHITE STAR",
    "adICTLY EQUIVALENT TOaeNG TERMINATORacSacUDIO MICROPHONEadFFED FLATBREADadPAacXabUB",
    "adSCRIPT EIGHTalQUALS SIGNakFIVEalOURakLEFT PARENTHESISakMINUSakNINEakONEakPLUS SIGN",
    "akRIGHT PARENTHESISakSEVENalIXakTHREEalWOakZEROaeET ABOVE RIGHTWARDS ARROWanSUBSETapPERSET",
    "ahOFaj ABOVE ALMOST EQUAL TOaqEQUALS SIGNaqNOT EQUAL TOaqTILDE OPERATORakOR EQUAL TO",
    "av WITH DOT ABOVEakWITH NOT EQUAL TOahWITH DOTamMULTIPLICATION SIGN BELOWamPLUS SIGN BELOW",
    "aeTITUTEacCCEEDSai ABOVE ALMOST EQUAL TOapEQUALS SIGNapNOT ALMOST EQUAL TOatEQUAL TO",
    "apSINGLE-LINE EQUALS SIGNbbNOT EQUAL TOajBUT NOT EQUIVALENT TOajOR EQUAL TOapIVALENT TO",
    "ajUNDER RELATIONacMMATION BOTTOMakTOPakWITH INTEGRALacNad BEHIND CLOUDaeWITH FACE",
    "adDANESE AVAGRAHAakCONSONANT SIGN PAMINGKALbbNYAKRAbdIKUbbSANGAN MAbiWAakDIGIT EIGHTaqFIVE",
    "arOURaqNINEaqONEaqSEVENarIXaqTHREEarWOaqZEROakLETTER AasEarBAasHAarCAarDAarEasUarFAasINAL K",
    "axMarGAarHAarIarJAarKAasHAarLAasEUarMAarNAasGAasYAarOarPAarQAarRAasEUarSAasYAarTAarUarVAarWA",
    "arXAarYAarZAakPUNCTUATION BINDU BA SATANGAbcCAKRAbcDA SATANGAbcKA SATANGAbcLEU SATANGA",
    "bcPANGLONGbdURNAMAbcSURYAakSIGN PAMAAEHarNGLAYARatWISADasYECEKapVIRAMAakVOWEL SIGN PAMEPET",
    "axNAELAENGayEULEUNGayGHULUayOLONGayYUKUadFLOWERadRISEah OVER MOUNTAINSadSET OVER BUILDINGS",
    "acPERHEROafSCRIPT EIGHTanQUALS SIGNamFIVEanOURamLATIN SMALL LETTER IbfNanEFT PARENTHESIS",
    "amMINUSamNINEamONEamPLUS SIGNamRIGHT PARENTHESISamSEVENanIXamTHREEanWOamZERO",
    "agET ABOVE LEFTWARDS ARROWapSUBSETarPERSETajBESIDE AND JOINED BY DASH WITH SUBSETaqSUBSET",
    "ajOFal ABOVE ALMOST EQUAL TOasEQUALS SIGNasNOT EQUAL TOasTILDE OPERATORamOR EQUAL TO",
    "ax WITH DOT ABOVEamWITH NOT EQUAL TOajPRECEDING SOLIDUSajWITH DOTaoMULTIPLICATION SIGN BELOW",
    "aoPLUS SIGN BELOWafVILLAINacRFACE INTEGRALaeERacSHIadPENSION RAILWAYabWAN",
    "adSH AMPERSAND ORNAMENTacIMMERacUNG DASHabYLOTI NAGRI LETTER AauBHOavOauCHOavOauDDHOawOavHO",
    "avOauEauGHOavOauHOauIauJHOavOauKHOavOauLOauMOauNOauOauPHOavOauROavROauSOauTHOavOavTHOawOauU",
    "anPOETRY MARK-1az2az3az4anSIGN ALTERNATE HASANTAatNUSVARAasDVISVARAasHASANTAanVOWEL SIGN A",
    "ayEayIayOOayUacMBOL FOR ACKNOWLEDGEalBACKSPACEamELLalCANCELanRRIAGE RETURNalDATA LINK ESCAPE",
    "amELETEar FORM TWOanVICE CONTROL FOURbaONEbaTHREEbbWOalEND OF MEDIUMasTEXTatRANSMISSION",
    "be BLOCKanQUIRYamSCAPEalFILE SEPARATORamORM FEEDalGROUP SEPARATORalHORIZONTAL TABULATION",
    "alLINE FEEDalMARKS CHAPTERalNEGATIVE ACKNOWLEDGEanWLINEamULLalRECORD SEPARATOR",
    "alSAMARITAN SOURCEamHIFT INarOUTamPACEamTART OF HEADINGauTEXTamUBSTITUTEav FORM TWO",
    "amYNCHRONOUS IDLEalTYPE A ELECTRONICSalUNIT SEPARATORalVERTICAL TABULATIONadMETRYacNadAGOGUE",
    "adCHRONOUS IDLEacRIAC ABBREVIATION MARKahBARREKHahCOLON SKEWED LEFTauRIGHTajNTRACTION",
    "ahDOTTED ZLAMA ANGULARauHORIZONTALahEND OF PARAGRAPHaiSASA ABOVEanBELOWahFEMININE DOT",
    "ahHARKLEAN ASTERISCUSaqMETOBELUSaqOBELUSaiBASA ABOVEanBELOWam-ESASA DOTTEDaiORIZONTAL COLON",
    "ahLETTER ALAPHaoBETHaoDALATHapOTLESS DALATH RISHaoEaoFINAL SEMKATHaoGAMALat GARSHUNIaoHEaqTH",
    "aoKAPHaoLAMADHaoMALAYALAM BHAayJAayLLAbaLAayNGAazNAbaNAazYAayRAaySSAayTTAapIMaoNUNaoPE",
    "aqRSIAN BHETHawDHALATHawGHAMALaoQAPHaoREVERSED PEapISHaoSADHEapEMKATHapHINapOGDIAN FEawKHAPH",
    "awZHAINapUPERSCRIPT ALAPHaoTAWapETHas GARSHUNIaoWAWaoYUDHas HEaoZAINahMUSIC",
    "ahOBLIQUE LINE ABOVEauBELOWahPTHAHA ABOVEaoBELOWaoDOTTEDahQUSHSHAYAahRBASA ABOVEanBELOW",
    "aiUKKAKHAaiWAHAahSUBLINEAR COLONaw SKEWED LEFTbeRIGHTarFULL STOPajPRALINEAR COLON",
    "ay SKEWED LEFTatFULL STOPahTHREE DOTS ABOVEasBELOWaiWO VERTICAL DOTS ABOVEazBELOW",
    "ahZQAPHA ABOVEaoBELOWaoDOTTEDaeNGE"]

/-- The names that begin with T. -/
def listT : List String :=
  ["aaT-REXacSHIRTabABadLE TENNIS PADDLE AND BALLacCOacG AMPERSANDafPOSTROPHEafSTERISK",
    "aeCIRCUMFLEX ACCENTafOLONagMMAaiERCIAL ATaeDIGIT EIGHTakFIVEalOURakNINEakONEakSEVENalIX",
    "akTHREEalWOakZEROafOLLAR SIGNaeEQUALS SIGNafXCLAMATION MARKaeFULL STOPaeGRAVE ACCENT",
    "agEATER-THAN SIGNaeHYPHEN-MINUSaeLATIN CAPITAL LETTER AazBazCazDazEazFazGazHazIazJazKazLazM",
    "azNazOazPazQazRazSazTazUazVazWazXazYazZakSMALL LETTER AaxBaxCaxDaxEaxFaxGaxHaxIaxJaxKaxLaxM",
    "axNaxOaxPaxQaxRaxSaxTaxUaxVaxWaxXaxYaxZafEFT CURLY BRACKETajPARENTHESISajSQUARE BRACKET",
    "agSS-THAN SIGNafOW LINEaeNUMBER SIGNaePERCENT SIGNafLUS SIGNaeQUESTION MARKagOTATION MARK",
    "aeREVERSE SOLIDUSafIGHT CURLY BRACKETakPARENTHESISakSQUARE BRACKETaeSEMICOLONafOLIDUSafPACE",
    "aeTILDEaeVERTICAL LINEadALOG LETTER AaqRCHAIC RAapBAapDAapGAapHAapIapKAapLAapMAapNAaqGAapPA",
    "apRAapSAapTAapUapWAapYAaiSIGN PAMUDPODanVIRAMAaiVOWEL SIGN IatUadBANWA LETTER AaqBAaqDAaqGA",
    "aqIaqKAaqLAaqMAaqNAarGAaqPAaqSAaqTAaqUaqWAaqYAajVOWEL SIGN IauUacI LE LETTER AapIapUEaoEapE",
    "apHaoFAaoHAaoIaoKAapHAaoLAaoMAaoNAapGAaoOapOaoPAapHAaoQAaoSAaoTAapHAapONE-2at3at4at5at6apSA",
    "aqHAaoUapEaoVAaoXAaoYAaeTHAM COMBINING CRYPTOGRAMMIC DOTalNSONANT SIGN BAayFINAL NGA",
    "ayHIGH RATHA OR LOW PAayLA TANG LAIazOW PAayMAazEDIAL LAbfRAaySAajHORA DIGIT EIGHTauFIVE",
    "avOURauNINEauONEauSEVENavIXauTHREEavWOauZEROajLETTER AaqBAaqDAaqEEaqGREAT SAaqHIGH CAawHA",
    "avFAavHAavKAawHAawXAavPAawHAavRATHAavSAawHAawSAavTAawHAavYAaqIarIaqLAasEarLAarOW CAavHAauFA",
    "auHAauKAavHAavXAauPAavHAauRATHAauSAauTAavHAauYAarUEaqMAaqNAarGAarYAaqOOaqRAasNAasTAarUEaqU",
    "arUaqWAajSIGN CAANGaoDOKMAIaoHANGapOYaoKAANasKUUapEOWapHUEN TONE-3az4az5at-LUE KARAN",
    "aoMAI KANGaw LAIasSAMasYAMOKaoRA HAAMapEVERSED ROTATED RANAaoSAKOTaqTKAANavKUUaqWANaoTONE-1",
    "at2aoWIANGatWAAKajTHAM DIGIT EIGHTauFIVEavOURauNINEauONEauSEVENavIXauTHREEavWOauZERO",
    "ajVOWEL SIGN AavAavEavIauEauIavIauMAI SATauOavA ABOVEaxBELOWavOavYauTALL AAavHAM AIauUavEavU",
    "awEaeVIET LETTER HIGH BOavCHOawOavDOavFOavGOavHOavKHHOaxOawOavLOavMOavNGOawOawYOavOavPHOawO",
    "avROavSOavTHOawOavVOavYOaqLOW BOauCHOavOauDOauFOauGOauHOauKHHOawOavOauLOauMOauNGOavOavYOauO",
    "auPHOavOauROauSOauTHOavOauVOauYOajMAI KANGaoHITajSYMBOL HO HOIaqKOI KOIasNaqNUENGaqSAM",
    "ajTONE MAI EKasNUENGasSONGasTHOajVOWEL AAaqMaqNaqUEaqYapEapIaqAapOapUaqAaqEarAacKEOUT BOX",
    "adRI ABBREVIATION SIGNagDIGIT EIGHTamFIVEanOURamNINEamONEamSEVENanIXamTHREEanWOamZERO",
    "agLETTER AaoAaoIaoRCHAIC KHAaoUanBAaoHAanCAaoHAanDAaoDAapHAaoHAanEanGAaoHAanHAanIaoIanJAaoHA",
    "anKAaoHAanLAanMAanNAaoGAaoNAaoYAanOanPAaoHAanRAaoRAanSAaoHAanTAaoHAaoTAapHAanUaoUanVAanYA",
    "agSIGN ANUSVARAalNUKTAalVIRAMAanSARGAagVOWEL SIGN AAasIasUarEarIasIarOarUasUacLLY MARK FIVE",
    "alONEacMALEadIL AND ODD SIGNahS ABOVE SIGNahU LENGTH MARKagCREDIT SIGNahURRENT SIGN",
    "agDAY SIGNahEBIT SIGNahIGIT EIGHTamFIVEanOURamNINEamONEamSEVENanIXamTHREEanWOamZERO",
    "ahRY CULTIVATION SIGNagFRACTION DOWNSCALING FACTOR KIIZHapONE EIGHTHayIETHatFIFTHauORTIETH",
    "atHALF-1ay2atONE-HUNDRED-AND-SIXTIETHatQUARTERatSIXTEENTH-1bd2axY-FOURTHatTENTH",
    "auHIRTY-SECONDavREE-HUNDRED-AND-TWENTIETHauWENTIETHapTHREE EIGHTIETHSavQUARTERSavSIXTEENTHS",
    "azY-FOURTHSavTWENTIETHSagIN POSSESSION SIGNagLAND SIGNahETTER AaoAaoIaoUanCAanEaoEanHAanIaoI",
    "anJAanKAanLAaoLAapLAanMAanNAaoGAaoNAapNAaoYAanOaoOanPAanRAaoRAanSAaoHAaoSAanTAaoTAanUaoUanVA",
    "anYAagMONTH SIGNagNUMBER ONE HUNDREDarTHOUSANDanSIGNanTENagOMagPUNCTUATION END OF TEXT",
    "agRUPEE SIGNagSALT PAN SIGNahIGN AAZHAAKKUamNUSVARAalCEVITUalKAACUamURUNIanZHIalMUKKURUNI",
    "anTHALIYAanUVUZHAKKUalNELalPAARAManNAManTHAKKUamONalUZHAKKUalVAKAIYARAAanRAAKANamELIamIRAMA",
    "anSARGAahPENT SIGNahTARTING FROM SIGNagTOTAL SIGNahRADITIONAL CREDIT SIGNasNUMBER SIGN",
    "agVOWEL SIGN AAasIasUarEasEarIasIarOasOarUasUagWET CULTIVATION SIGNagYEAR SIGNacNABATA TREE",
    "adGERINEaeSA DIGIT EIGHTanFIVEaoOURanNINEanONEanSEVENaoIXanTHREEaoWOanZEROahLETTER ACapQapWC",
    "aqQaqXaqZapXapZaoBAaoCAapHAaoDAapHAaoECapQapXapZaoFAapINAL NGaoGAapHAaoHAapTAaqTAaoICapQapX",
    "apZaoKAapHAaoLAapONG UEXaoMAapCapQapXapZaoNAapGAapHAapYAaoOCapQapXapZaoPAapHAaoRAaoSAapHA",
    "aqORT AWXauUEZaoTAapHAapSAaoUCapECaqQaqXaqZapICaqQaqUCarQarXarZaqXaqZapQapXapZaoVCapQapXapZ",
    "aoWAaoXAaoYAaoZAaeUT COMPONENT-001at2at3at4at5at6at7at8at9as10at1at2at3at4at5at6at7at8at9",
    "as20at1at2at3at4at5at6at7at8at9as30at1at2at3at4at5at6at7at8at9as40at1at2at3at4at5at6at7at8",
    "at9as50at1at2at3at4at5at6at7at8at9as60at1at2at3at4at5at6at7at8at9as70at1at2at3at4at5at6at7",
    "at8at9as80at1at2at3at4at5at6at7at8at9as90at1at2at3at4at5at6at7at8at9ar100at1at2at3at4at5at6",
    "at7at8at9as10at1at2at3at4at5at6at7at8at9as20at1at2at3at4at5at6at7at8at9as30at1at2at3at4at5",
    "at6at7at8at9as40at1at2at3at4at5at6at7at8at9as50at1at2at3at4at5at6at7at8at9as60at1at2at3at4",
    "at5at6at7at8at9as70at1at2at3at4at5at6at7at8at9as80at1at2at3at4at5at6at7at8at9as90at1at2at3",
    "at4at5at6at7at8at9ar200at1at2at3at4at5at6at7at8at9as10at1at2at3at4at5at6at7at8at9as20at1at2",
    "at3at4at5at6at7at8at9as30at1at2at3at4at5at6at7at8at9as40at1at2at3at4at5at6at7at8at9as50at1",
    "at2at3at4at5at6at7at8at9as60at1at2at3at4at5at6at7at8at9as70at1at2at3at4at5at6at7at8at9as80",
    "at1at2at3at4at5at6at7at8at9as90at1at2at3at4at5at6at7at8at9ar300at1at2at3at4at5at6at7at8at9",
    "as10at1at2at3at4at5at6at7at8at9as20at1at2at3at4at5at6at7at8at9as30at1at2at3at4at5at6at7at8",
    "at9as40at1at2at3at4at5at6at7at8at9as50at1at2at3at4at5at6at7at8at9as60at1at2at3at4at5at6at7",
    "at8at9as70at1at2at3at4at5at6at7at8at9as80at1at2at3at4at5at6at7at8at9as90at1at2at3at4at5at6",
    "at7at8at9ar400at1at2at3at4at5at6at7at8at9as10at1at2at3at4at5at6at7at8at9as20at1at2at3at4at5",
    "at6at7at8at9as30at1at2at3at4at5at6at7at8at9as40at1at2at3at4at5at6at7at8at9as50at1at2at3at4",
    "at5at6at7at8at9as60at1at2at3at4at5at6at7at8at9as70at1at2at3at4at5at6at7at8at9as80at1at2at3",
    "at4at5at6at7at8at9as90at1at2at3at4at5at6at7at8at9ar500at1at2at3at4at5at6at7at8at9as10at1at2",
    "at3at4at5at6at7at8at9as20at1at2at3at4at5at6at7at8at9as30at1at2at3at4at5at6at7at8at9as40at1",
    "at2at3at4at5at6at7at8at9as50at1at2at3at4at5at6at7at8at9as60at1at2at3at4at5at6at7at8at9as70",
    "at1at2at3at4at5at6at7at8at9as80at1at2at3at4at5at6at7at8at9as90at1at2at3at4at5at6at7at8at9",
    "ar600at1at2at3at4at5at6at7at8at9as10at1at2at3at4at5at6at7at8at9as20at1at2at3at4at5at6at7at8",
    "at9as30at1at2at3at4at5at6at7at8at9as40at1at2at3at4at5at6at7at8at9as50at1at2at3at4at5at6at7",
    "at8at9as60at1at2at3at4at5at6at7at8at9as70at1at2at3at4at5at6at7at8at9as80at1at2at3at4at5at6",
    "at7at8at9as90at1at2at3at4at5at6at7at8at9ar700at1at2at3at4at5at6at7at8at9as10at1at2at3at4at5",
    "at6at7at8at9as20at1at2at3at4at5at6at7at8at9as30at1at2at3at4at5at6at7at8at9as40at1at2at3at4",
    "at5at6at7at8at9as50at1at2at3at4at5at6at7at8at9as60at1at2at3at4at5at6at7at8ahITERATION MARK",
    "acPE CARTRIDGEafDRIVEacURUSacXIabEACUP WITHOUT HANDLEadPOTadR-OFF CALENDAR",
    "aeDROP-BARBED RIGHTWARDS ARROWajSPOKED ASTERISKacDDY BEARacLEPHONE LOCATION SIGN",
    "akON TOP OF MODEMakRECEIVERas WITH PAGEanORDERakSIGNaeSCOPEaeVISIONadUGU AI LENGTH MARK",
    "ahDIGIT EIGHTanFIVEaoOURanNINEanONEanSEVENaoIXanTHREEaoWOanZERO",
    "ahFRACTION DIGIT ONE FOR EVEN POWERS OF FOURbeODD POWERS OF FOUR",
    "awTHREE FOR EVEN POWERS OF FOURbgODD POWERS OF FOURaxWO FOR EVEN POWERS OF FOUR",
    "beODD POWERS OF FOURawZERO FOR ODD POWERS OF FOURahLENGTH MARKajTTER AapAapIapUaoBAapHAaoCA",
    "apHAaoDAapDAaqHAapHAapZAaoEapEaoGAapHAaoHAaoIapIaoJAapHAaoKAapHAaoLAapLAaqLAaoMAaoNA",
    "aqKAARA POLLUapGAapNAapYAaoOapOaoPAapHAaoRAapRAaqRAaoSAapHAapSAaoTAapHAapSAapTAaqHAaoUapU",
    "aoVAapOCALIC LaxLawRaxRaoYAahSIGN ANUSVARAanVAGRAHAamCANDRABINDUanOMBINING ANUSVARA ABOVE",
    "awCANDRABINDU ABOVEamNUKTAamSIDDHAMamTUUMUamVIRAMAaoSARGAahVOWEL SIGN AAatIatUasEatEasIatI",
    "asOatOasUatUasVOCALIC LbbLbaRbbRacNGE SIGNadNIS RACQUET AND BALLadTacST TUBE",
    "acTRAGRAM FOR ACCUMULATIONapDVANCEapGGRAVATIONapSCENTaoBARRIERapOLD RESOLUTIONapRANCHING OUT",
    "aoCENTREapHANGEapLOSED MOUTHatNESSasUREapOMPLETIONatIANCEaqNSTANCYarTACTasENTIONasRARIETY",
    "aoDARKENINGapECISIVENESSaqFECTIVENESS OR DISTORTIONaqPARTUREapIFFICULTIESaqMINISHMENTarMING",
    "aqVERGENCEapOUBTapUTIESaoEASEapMBELLISHMENTapNCOUNTERSaqDEAVOURaqLARGEMENTapTERNITY",
    "apXHAUSTIONaoFAILUREapLIGHTapOLLOWINGaqSTERINGapULL CIRCLEasNESSaoGATHERINGax IN",
    "apOING TO MEETapREATNESSapUARDEDNESSaoHARDNESSapOLDING BACKaoINCREASEaqNERaoJOY",
    "aoKEEPING SMALLapINSHIPaoLABOURINGaqW OR MODELapEGIONaoMASSINGapEASUREapIREDaoON THE VERGE",
    "apPPOSITIONaoPACKINGaqTTERNapENETRATIONapURITYaoREACHaqLEASEaqSIDENCEasSTANCEarPONSEapITUAL",
    "aoSEVERANCEapINKINGapTOPPAGEarVEaqRENGTHaoUNITYaoVASTNESS OR WASTINGaoWAITINGaqTCH",
    "aoYOUTHFULNESSabHAANA AABAAFILIaiBAFILIahEBEFILIaiEBEEFILIaiYBEYFILIahIBIFILIahLETTER AINU",
    "apLIFUaoBAAaoCHAVIYANIaoDAADHUaqVIYANIapHAALUaoFAAFUaoGAAFUapHAINUapNAVIYANIaoHAAapHAA",
    "aoJAVIYANIaoKAAFUapHAAaoLAAMUapHAVIYANIaoMEEMUaoNAAapOONUaoPAVIYANIaoQAAFUaoRAAaoSAADHU",
    "apEENUapHAVIYANIaqEENUaoTAVIYANIapHAAasLUapOapTAAaoVAAVUaoWAAVUaoYAAaoZAAaqVIYANIapO",
    "ahOABOAFILIaiBOFILIaiOBOOFILIahSUKUNahUBUFILIadI CHARACTER ANGKHANKHUapBO BAIMAIapCHO CHAN",
    "axGavINGavOEapDO CHADAasDEKapFO FAauNarNGMANapHO HIPasNOKHUKapKHO KHAIavONavUATavWAI",
    "atRAKHANGasMUTaqO KAIapLAKKHANGYAOaqO CHULAasLINGaqUapMAI CHATTAWAatEKatHAN-AKATatTHOauRI",
    "asTAIKHUasYAMOKaqO MAapNGO NGUaqIKHAHITaqO NENatUapO ANGapPAIYANNOIaqHINTHUarO PHANavUNG",
    "atSAMPHAOaqO PLAapRO RUAaqUapSARA AavAavEavI MAIMALAIbbUANavMauEauIavIauOauUavEawEavU",
    "aqO RUSIasSALAatOatUAapTHANTHAKHATarO NANGMONTHOatPHUTHAOatTHAHANawNavONGavUNGaqO PATAKasTAO",
    "apWO WAENapYAMAKKANaqO YAKatINGagURRENCY SYMBOL BAHTafDIGIT EIGHTalFIVEamOURalNINEalONE",
    "alSEVENamIXalTHREEamWOalZEROacERE DOES NOT EXISTagEXISTSafFOREaeMODYNAMICagMETER",
    "acIN GREEK CROSSafSALTIREagPACEaeKING FACEadRD PLACE MEDALacONG SANDALadUGHT BALLOON",
    "acREE BUTTON MOUSEagCONSECUTIVE EQUALS SIGNSagDIMENSIONAL ANGLEahOT PUNCTUATION",
    "agLEFTWARDS ARROWSahINES CONVERGING LEFTaxRIGHTagNETWORKED COMPUTERSagPOINTED BLACK STAR",
    "agRAYS ABOVEalBELOWalLEFTalRIGHTahIGHTWARDS ARROWSagSPEECH BUBBLES",
    "af-D BOTTOM-LIGHTED RIGHTWARDS ARROWHEADaiLEFT-LIGHTED DOWNWARDS EQUILATERAL ARROWHEAD",
    "aiRIGHT-LIGHTED UPWARDS EQUILATERAL ARROWHEADaiTOP-LIGHTED LEFTWARDS EQUILATERAL ARROWHEAD",
    "auRIGHTWARDS ARROWHEADbfEQUILATERAL ARROWHEADagEM DASHagPER-EM SPACEacUMBS DOWN SIGN",
    "ahUP SIGNadNDER CLOUD AND RAINahSTORMabIBETAN ASTROLOGICAL SIGN -KHYUD PAbaSDONG TSHUGS",
    "bbGRA GCAN -CHAR RTAGSaiCANTILLATION SIGN CANG TE-UbaHEAVY BEATbaLIGHT BEATbaSBUB -CHAL",
    "aiDIGIT EIGHTaoFIVEapOURaoHALF EIGHTatFIVEauOURatNINEatONEatSEVENauIXatTHREEauWOatZEROaoNINE",
    "aoONEaoSEVENapIXaoTHREEapWOaoZEROaiKU RU KHAar BZHI MIG CANaiLETTER -AapAapBAaqHAapCAaqHA",
    "apDAaqDAarHAaqHAaqZAarHAapFIXED-FORM RAapGAaqHAapHAapJAapKAaqHAaqKAaqSSAapLAapMAapNAaqGAaqNA",
    "aqYAapPAaqHAapRAaqRAapSAaqHAaqSAapTAaqHAaqSAarHAaqTAarHAapWAapYAapZAaqHA",
    "ajOGOTYPE SIGN CHAD RTAGSawLHAG RTAGSaiMARK ANG KHANG GYASazONanBKA- SHOG GI MGO RGYAN",
    "axYIG MGOaoSDUS RTAGSapKA- SHOG GI MGO RGYANaqUR YIG MGOanCARET -DZUD RTAGS BZHI MIG CAN",
    "bfME LONG CANatYIG MGO PHUR SHAD MAaoHE MGOaoLOSING BRDA RNYING YIG MGO SGAB MA",
    "avYIG MGO SGAB MAanDELIMITER TSHEG BSTARanGTER TSHEGasYIG MGO -UM GTER TSHEG MA",
    "beRNAM BCAD MAbaTRUNCATED AaoUG RTAGS GYASazONanHALANTAanINITIAL BRDA RNYING YIG MGO MDUN MA",
    "avYIG MGO MDUN MAapTERSYLLABIC TSHEGanLEADING MCHAN RTAGSanMNYAM YIG GI MGO RGYAN",
    "anNGAS BZUNG NYI ZLAaySGOR RTAGSaoYIS SHADasTSHEGax SHADanPALUTAanRGYA GRAM SHAD",
    "aoIN CHEN SPUNGS SHADanSBRUL SHADaoHADanTRAILING MCHAN RTAGSaoSA -PHRUapHEG SHAD",
    "anYIG MGO TSHEG SHAD MAaiSIGN GRU CAN RGYINGSarMED RGYINGSanINVERTED MCHU CANanLCE TSA CAN",
    "apI RTAGSanMAR TSHESaoCHU CANanNYI ZLA NAA DAanRDEL DKAR GCIGayNYISaySUMaxRDEL NAGasNAG GCIG",
    "axNYISaxSUMawRDEL DKARaoJES SU NGA ROaoNAM BCADanSNA LDANanYANG RTAGSapR TSHES",
    "ajUBJOINED LETTER -AazAazBAbaHAazCAbaHAazDAbaDAbbHAbaHAbaZAbbHAazFIXED-FORM RAbkWAbkYAazGA",
    "baHAazHAazJAazKAbaHAbaSSAazLAazMAazNAbaGAbaNAbaYAazPAbaHAazRAazSAbaHAbaSAazTAbaHAbaSAbbHA",
    "baTAbbHAazWAazYAazZAbaHAasSIGN INVERTED MCHU CANaxLCE TSA CANaxMCHU CANajYLLABLE OM",
    "akMBOL DRIL BUapNOR BUav BZHI -KHYILawGSUM -KHYILawNYIS -KHYILapPADMA GDANaqHUR PAapRDO RJE",
    "aw RGYA GRAMaiVOWEL SIGN AAatEauEatIauIatOauOatREVERSED IbdIatUauUatVOCALIC LbcLbbRbcRacCKET",
    "acE OVER INFINITYacFINAGH CONSONANT JOINERajLETTER AHAGGAR YAZHarYER YAGH",
    "aqBERBER ACADEMY YAHbhJaqTAWELLEMET YAZarUAREG YAGHbaNazHazKbaHazNGazQazZHaqYAasAasBatHasCH",
    "asDatDauHatHasFasGatHauHasHatHasJasKatHauHasLasMasNasPasQasRatRasSatHatSasTatHatTasVasWasY",
    "asZatHatZarEasYarIarOarUajMODIFIER LETTER LABIALIZATION MARKajSEPARATOR MARKacGERaf FACE",
    "adHT TRIFOLIATE SNOWFLAKEacLDEaf OPERATORao ABOVE LEFTWARDS ARROWavRIGHTWARDS ARROW",
    "apWITH DOT ABOVEauRISING DOTSagWITH DOT ABOVEapBELOWalRING ABOVEacMER CLOCK",
    "aeS WITH LEFT HALF BLACKalRIGHT HALF BLACKacNYae TWO DOTS OVER ONE DOT PUNCTUATIONacRED FACE",
    "adHUTA ABBREVIATION SIGNajNJIaiDIGIT EIGHTaoFIVEapOURaoNINEaoONEaoSEVENapIXaoTHREEapWOaoZERO",
    "aiGVANGaiLETTER AaqAaqIaqUapBAaqHAapCAaqHAapDAaqDAarHAaqHAapEapGAaqHAapHAapIaqIapJAaqHAapKA",
    "aqHAapLAapMAapNAaqGAaqNAaqYAapOapPAaqHAapRAapSAaqHAaqSAapTAaqHAaqTAarHAapUaqUapVAaqOCALIC L",
    "ayLaxRayRapYAaiOMaiSIGN ANUSVARAaoVAGRAHAanCANDRABINDUanNUKTAanVIRAMAapSARGAaiVOWEL SIGN AA",
    "auIauUatEatIauIatOatSHORT EazOatUauUatVOCALIC LbcLbbRbcRadONIAN SIGN CAPITAL ETaoETabOILET",
    "acKYO TOWERacMATOacNGUEacOLBOXadTHafBRUSHacP ARC ANTICLOCKWISE ARROWbb WITH PLUS",
    "aiCLOCKWISE ARROW WITH MINUSaeCURLY BRACKETaeHALF BLACK CIRCLEajINTEGRALajLEFT PARENTHESIS",
    "ajRIGHT PARENTHESISajSECTION SIGNagTaeLEFT CORNERakROPajHALF BRACKETaePARENTHESIS",
    "aeRIGHT CORNERalROPakHALF BRACKETaeSQUARE BRACKETaeTORTOISE SHELL BRACKET",
    "aeWITH UPWARDS ARROW ABOVEacRTOISE SHELL BRACKETED CJK UNIFIED IDEOGRAPH-4E09bx8Cbv52DDbwB89",
    "bv6253bw557bw72Cbv70B9bw6D7azLATIN CAPITAL LETTER SacTAL RUNOUTadO LETTER AanEamBA",
    "anREATHY AEauEavOauIavUamCHAamDAamEanOamGAamHAamIanUamJAamKAamLAamMAamNAanGAamOamPAamRAamSA",
    "amTAamUamWAamYAafSIGN RISING TONEabRACKBALLaeTORadDE MARK SIGNadINadMae CARadNSPLUTO",
    "afVERSAL INTERSECTIONacIANGLE WITH DOT ABOVEaoROUNDED CORNERSaoSERIFS AT BOTTOMaoUNDERBAR",
    "ai-HEADED RIGHTWARDS ARROWagULAR BULLETalFLAG ON POSTalRULERadCOLONadDENT EMBLEM",
    "adGRAM FOR EARTHamFIREamHEAVENamLAKEamMOUNTAINamTHUNDERamWATERanINDadPLE COLON OPERATOR",
    "ahDAGGERahHORIZONTAL BAR WITH DOUBLE VERTICAL STROKEbbTRIPLE VERTICAL STROKEahINTEGRAL",
    "ahNESTED GREATER-THANaoLESS-THANahPLUSaiRIMEahSOLIDUS BINARY RELATIONahTILDE",
    "ahVERTICAL BAR BINARY RELATIONauDELIMITERauRIGHT TURNSTILEauWITH HORIZONTAL STROKEacOLL",
    "afEYBUSadPHYaeICAL DRINKajFISHacUEae LIGHT MOON ARTAadMPETabUGRIK SIGNacLIPacMBLER GLASS",
    "acRKEYaeISH LIRA SIGNadNED AMPERSANDaiNGLEahBLACK PENTAGONanSHOGI PIECEahCAPITAL FaiOMMA",
    "ahDAGGERaiIGIT THREEaoWOahGREEK SMALL LETTER IOTAahNORTH EAST POINTING LEAF",
    "anWEST POINTING LEAFajT SIGNahOK HAND SIGNahSANS-SERIF CAPITAL GbaLbaYaiEMICOLONaiMALL F",
    "aiOUTH EAST POINTING LEAFanWEST POINTING LEAFahWHITE SHOGI PIECEadTLE",
    "abWELVE POINTED BLACK STARacISTED RIGHTWARDS ARROWSacO ASTERISKS ALIGNED VERTICALLY",
    "aeBUTTON MOUSEaeCONSECUTIVE EQUALS SIGNSaeDOT LEADERaiPUNCTUATION",
    "ahS OVER ONE DOT PUNCTUATIONaeHEARTSaeINTERSECTING LOGICAL ANDazORaeJOINED SQUARES",
    "aeLOGICAL AND OPERATORamOR OPERATORaeMEN HOLDING HANDSaeSPEECH BUBBLESaeWOMEN HOLDING HANDS",
    "ad-EM DASH"]

/-- The names that begin with U. -/
def listU : List String :=
  ["aaUGARITIC LETTER AINarLPAaqBETAaqDELTAarHALaqGAMLAarHAINaqHOasTAaqIaqKAFarHAaqLAMDAaqMEM",
    "aqNUNaqPUaqQOPAaqRASHAaqSADEasMKAarHINarSUaqTETarHANNAarOaqUaqWOaqYODaqZETAarUajWORD DIVIDER",
    "abMBRELLAai ON GROUNDajWITH RAIN DROPSabNAMUSED FACEacCERTAINTY SIGNacDERTIEadO SYMBOL",
    "acICORN FACEadONaf ABOVE BAR ABOVE INTERSECTIONamINTERSECTIONagBESIDE AND JOINED WITH UNION",
    "agWITH LOGICAL ORalMINUS SIGNalOVERBARadT SEPARATORaeED SYMBOLadVERSAL RECYCLING SYMBOL",
    "acMARRIED PARTNERSHIP SYMBOLabP ARROW THROUGH CIRCLEaiHEADam BETWEEN TWO HORIZONTAL BARS",
    "anIN A RECTANGLE BOXadBARB LEFT DOWN BARB LEFT HARPOONaxRIGHT HARPOON",
    "aiRIGHT DOWN BARB LEFT HARPOONayRIGHT HARPOONadDOWN ARROWan WITH BASEaiBLACK ARROW",
    "aiDOUBLE ARROWaiSANS-SERIF ARROWaiTRIANGLE-HEADED ARROWaiWHITE ARROWadFISH TAIL",
    "adRIGHT DIAGONAL ELLIPSISadTACKah WITH CIRCLE ABOVEac-POINTING AIRPLANEamMILITARY AIRPLANE",
    "amRED TRIANGLEamSMALL AIRPLANEasRED TRIANGLEamTRIANGLE WITH LEFT HALF BLACK",
    "baRIGHT HALF BLACKacPER AND LEFT AND LOWER TRIANGULAR THREE QUARTERS BLOCK",
    "alOWER ONE EIGHTH BLOCKaqTRIANGULAR HALF BLOCK",
    "akRIGHT AND LOWER TRIANGULAR THREE QUARTERS BLOCKagBLADE SCISSORSagFIVE EIGHTHS BLOCK",
    "agHALF BLOCKaq AND LOWER HALF INVERSE MEDIUM SHADEalCIRCLE",
    "alINVERSE MEDIUM SHADE AND LOWER HALF BLOCKatWHITE CIRCLEalMEDIUM SHADE",
    "agLEFT BLOCK DIAGONAL LOWER CENTRE TO LOWER MIDDLE RIGHTbqUPPER MIDDLE RIGHTbwRIGHT",
    "bgLEFT TO LOWER MIDDLE RIGHTboUPPER CENTREbuMIDDLE RIGHTbgMIDDLE LEFT TO UPPER CENTRE",
    "cbMIDDLE RIGHTcbRIGHTbaUPPER MIDDLE LEFT TO UPPER CENTREcbRIGHTalCORNER WITH DOT",
    "alOR LOWER RIGHT CURLY BRACKET SECTIONalQUADRANT CIRCULAR ARCalTO LOWER RIGHT FILLamRIANGLE",
    "arULAR MEDIUM SHADEagONE EIGHTH BLOCKakQUARTER BLOCK",
    "agRIGHT BLOCK DIAGONAL LOWER MIDDLE LEFT TO LOWER CENTREccRIGHT",
    "bbUPPER CENTRE TO LOWER MIDDLE RIGHTbxRIGHTbrUPPER MIDDLE RIGHTbhLEFT TO LOWER CENTRE",
    "bvMIDDLE RIGHTbpUPPER MIDDLE RIGHTbhMIDDLE LEFT TO LOWER CENTREccMIDDLE RIGHTccRIGHT",
    "amDROP-SHADOWED WHITE SQUAREamOR LOWER LEFT CURLY BRACKET SECTIONamPENCIL",
    "amQUADRANT CIRCULAR ARCamSHADOWED WHITE CIRCLEbbSQUAREamTO LOWER LEFT FILLanRIANGLE",
    "asULAR MEDIUM SHADEagSEVEN EIGHTHS BLOCKagTHREE EIGHTHS BLOCKamQUARTERS BLOCK",
    "ahRIANGULAR ONE QUARTER BLOCKacSIDE-DOWN FACEacWARDS ANCORAajRROW",
    "an AND RIGHT ONE EIGHTH BLOCKaoFROM BARaoLEFTWARDS OF DOWNWARDS ARROWaoTO BAR",
    "aoWITH DOUBLE STROKEatEQUILATERAL ARROWHEADatHORIZONTAL STROKEatLARGE TRIANGLE ARROWHEAD",
    "atMEDIUM TRIANGLE ARROWHEADatNOTCHED TAILatSMALL EQUILATERAL ARROWHEADazTRIANGLE ARROWHEAD",
    "atTIP LEFTWARDSaxRIGHTWARDSaiBLACK ARROWaoCIRCLED WHITE ARROWaiCOMPRESSED ARROW",
    "aiDASHED ARROWajOUBLE ARROWaiFINGER-POST ARROW",
    "aiHARPOON WITH BARB LEFT BESIDE DOWNWARDS HARPOON WITH BARB RIGHT",
    "bmUPWARDS HARPOON WITH BARB RIGHTbfFROM BARbfTO BARbeWARDSbaRIGHT FROM BARbgTO BARbfWARDS",
    "ajEAVY ARROWaoCOMPRESSED ARROWaiPAIRED ARROWSaiQUADRUPLE ARROWaiROCKETaiSANS-SERIF ARROW",
    "ajQUARED ARROWaiTRIANGLE ARROWHEADaq-HEADED ARROW",
    "bd LEFTWARDS OF DOWNWARDS TRIANGLE-HEADED ARROWbeTO BARbeWITH BOLD SHAFT",
    "bjDOUBLE HORIZONTAL STROKEbjHEAVY SHAFTbjLONG TIP LEFTWARDSbsRIGHTWARDSbjMEDIUM SHAFT",
    "bjNARROW SHAFTbjVERY HEAVY SHAFTayDASHED ARROWayPAIRED ARROWSalPLE ARROWajWO HEADED ARROW",
    "al-HEADED ARROW FROM SMALL CIRCLEazWITH TRIANGLE ARROWHEADSaiWHITE ARROWat FROM BAR",
    "bc WITH HORIZONTAL BARauON PEDESTALbf WITH HORIZONTAL BARblVERTICAL BAR",
    "auWITHIN TRIANGLE ARROWHEADaoDOUBLE ARROWba ON PEDESTALabRANUSabS"]

/-- The names that begin with V. -/
def listV : List String :=
  ["aaVAI COMMAaeDIGIT EIGHTakFIVEalOURakNINEakONEakSEVENalIXakTHREEalWOakZEROaeFULL STOP",
    "aeQUESTION MARKaeSYLLABLE AaoNanBAaoEapEaoHAapEaqEapIapOaqOapUaoIaoOapOaoUanCAaoEapEaoIaoO",
    "apOaoUanDAaoEapEaoHAapEaqEapHAaqEarEaqIaqOarOaqUapIapOaqOapUaoIaoOapOaoUanEaoEapNaoNanFAaoE",
    "apEaoIaoOapOaoUanGAaoBAapEaqEaqNapIapOaqNaqOapUaoEapEapNaoIaoOapOaoUanHAapNaoEapEapNaoIapN",
    "aoOapNapOaoUapNanIaoNanJAaoEapEaoIaoOapOaoUanKAapNaoEapEaoIaoOapOaoPAaqNapEaqEaqNapIapOaqO",
    "apUaoUanLAaoEapEapNGTHENERaoIaoOapOaoUanMAaoBAapEaqEapIapOaqOapUaoEapEaoGBAaqEarEaqIaqOarO",
    "aqUaoIaoOapOaoUanNAaoDAapEaqEapIapOaqLE DOatFAatKAatMAatSOOaqOapUaoEapEaoGapANapENapGAaqEarE",
    "arNaqIaqOarOaqUapONaoIaoJAapEaqEapIapOaqOapUaoOapOaoUaoYAapEaqEapIapOaqOapUanOaoNaoOapNanPA",
    "aoEapEaoIaoOapOaoUanRAaoEapEaoIaoOapOaoUanSAaoEapEaoHAapEaqEapIapOaqOapUaoIaoOapOaoUanTAaoE",
    "apEaoHAapEaqEapIapOaqOapUaoIaoOapOaoUanUaoNanVAaoEapEaoIaoOapOaoUanWAapNaoEapEaqNapNaoIapN",
    "aoOapNapOaqNaoUapNanYAaoEapEaoIaoOapOaoUanZAaoEapEaoHAapEaqEapIapOaqOapUaoIaoOapOaoU",
    "agMBOL BANGalDANGamO-OanONGalFAAamEENGalJONGalKEENGamUNGalNIIalTAAamINGamONGacMPIRE",
    "acRIATION SELECTOR-1au0av0av1av2av3av4av5av6av7av8av9au1av0av1av2av3av4av5av6av7av8av9au2av0",
    "av1av2av3av4av5av6av7av8av9au3av0av1av2av3av4av5av6av7av8av9au4av0av1av2av3av4av5av6av7av8",
    "av9au5av0av1av2av3av4av5av6av7av8av9au6av0av1av2av3av4av5av6av7av8av9au7av0av1av2av3av4av5",
    "av6av7av8av9au8av0av1av2av3av4av5av6av7av8av9au9av0av1av2av3av4av5av6av7av8av9at2au0av0av1",
    "av2av3av4av5av6av7av8av9au1av0av1av2av3av4av5av6av7av8av9au2av0av1av2av3av4av5av6av7av8av9",
    "au3av0av1av2av3av4av5av6av7av8av9au4av0av1av2av3av4av5av6av7av8av9au5av0av1av2av3av4av5av6",
    "au6au7au8au9at3au0au1au2au3au4au5au6au7au8au9at4au0au1au2au3au4au5au6au7au8au9at5au0au1au2",
    "au3au4au5au6au7au8au9at6au0au1au2au3au4au5au6au7au8au9at7au0au1au2au3au4au5au6au7au8au9at8",
    "au0au1au2au3au4au5au6au7au8au9at9au0au1au2au3au4au5au6au7au8au9abECTOR OR CROSS PRODUCT",
    "acDIC SIGN ANUSVARA ANTARGOMUKHAauBAHIRGOMUKHAauUBHAYATO MUKHAauVAMAGOMUKHAbf WITH TAIL",
    "amRDHAVISARGAamTIKRAMAalDOUBLE ANUSVARA ANTARGOMUKHAalHEXIFORM LONG ANUSVARAalJIHVAMULIYA",
    "alLONG ANUSVARAalNIHSHVASAalREVERSED VISARGA ANUDATTAbcUDATTAamOTATED ARDHAVISARGA",
    "amTHANG LONG ANUSVARAalTIRYAKalUPADHMANIYAalVISARGA ANUDATTAbb WITH TAILatSVARITAatUDATTA",
    "az WITH TAILalYAJURVEDIC MIDLINE SVARITAagTONE ATHARVAVEDIC INDEPENDENT SVARITA",
    "alCANDRA ABOVEasBELOWalDOT BELOWanUBLE RING ABOVEasSVARITAalKARSHANAanTHAKA ANUDATTA",
    "alPRENKHAalRIGVEDIC KASHMIRI INDEPENDENT SVARITAanNG ABOVEalSHARAalTHREE DOTS BELOW",
    "amRIPLE SVARITAamWO DOTS BELOWalYAJURVEDIC AGGRAVATED INDEPENDENT SVARITA",
    "awINDEPENDENT SVARITAawKATHAKA INDEPENDENT SVARITAbx SCHROEDERacRSICLE",
    "adTICAL BAR BESIDE RIGHT TRIANGLEanDOUBLE LEFT TURNSTILEanTRIPLE RIGHT TURNSTILE",
    "anWITH HORIZONTAL STROKEajELLIPSISajFOUR DOTSajIDEOGRAPHIC ITERATION MARKajKANA REPEAT MARK",
    "az LOWER HALFbaUPPER HALFavWITH VOICED SOUND MARKbr UPPER HALFajLINEan EXTENSION",
    "aoWITH CIRCLE ABOVEbaBELOWatMIDDLE DOTajMALE WITH STROKE SIGNajONE EIGHTH BLOCK-2ba3ba4ba5",
    "ba6ba7ajSIX DOTSajTAB KEYamULATIONat SETakILDEakRAFFIC LIGHTajZIGZAG LINE",
    "adY BOLD GREEK CROSSafHEAVY EIGHT POINTED BLACK STARarSPOKED ASTERISKalFIVE SPOKED ASTERISK",
    "alGREEK CROSSalREVERSE SOLIDUSalSALTIREamIX SPOKED ASTERISKamOLIDUSalWHITE CIRCLEarSQUARE",
    "afMUCH GREATER-THANakLESS-THANacSTAabIBRATION MODEacCTORY HANDacDEO CAMERAagGAMEafCASSETTE",
    "acETNAMESE ALTERNATE READING MARK CAbiNHAYadWDATA SQUAREacOLINacRGOacTHKUQI CAPITAL LETTER A",
    "ayBBEazEayCEazHEayDEazHEayEazIayFEayGAayHAazHAayIazJEayJEayKAayLAazLAayMEayNEazJEayOayPEayQA",
    "ayREaySEazHEayTEazHEayUayVEayXEayYayZEajSMALL LETTER AawBBEaxEawCEaxHEawDEaxHEawEaxIawFEawGA",
    "awHAaxHAawIaxJEawJEawKAawLAaxLAawMEawNEaxJEawOawPEawQAawREawSEaxHEawTEaxHEawUawVEawXEawYawZE",
    "abOIDED GREEK CROSSacLCANOadLEYBALLadUME INTEGRALabS1ad0ae0ae1ae2ae3ae4ae5ae6ae7ae8ae9ad1ae0",
    "ae1ae2ae3ae4ae5ae6ae7ae8ae9ad2ae0ae1ae2ae3ae4ae5ae6ae7ae8ae9ad3ae0ae1ae2ae3ae4ae5ae6ae7ae8",
    "ae9ad4ae0ae1ae2ae3ae4ae5ae6ae7ae8ae9ad5ae0ae1ae2ae3ae4ae5ae6ae7ae8ae9ad6ae0ae1ae2ae3ae4ae5",
    "ae6ae7ae8ae9ad7ae0ae1ae2ae3ae4ae5ae6ae7ae8ae9ad8ae0ae1ae2ae3ae4ae5ae6ae7ae8ae9ad9ae0ae1ae2",
    "ae3ae4ae5ae6ae7ae8ae9ac2ad0ae0ae1ae2ae3ae4ae5ae6ae7ae8ae9ad1ae0ae1ae2ae3ae4ae5ae6ae7ae8ae9",
    "ad2ae0ae1ae2ae3ae4ae5ae6ae7ae8ae9ad3ae0ae1ae2ae3ae4ae5ae6ae7ae8ae9ad4ae0ae1ae2ae3ae4ae5ae6",
    "ae7ae8ae9ad5ae0ae1ae2ae3ae4ae5ae6ad6ad7ad8ad9ac3ad0ad1ad2ad3ad4ad5ad6ad7ad8ad9ac4ad0ad1ad2",
    "ad3ad4ad5ad6ad7ad8ad9ac5ad0ad1ad2ad3ad4ad5ad6ad7ad8ad9ac6ad0ad1ad2ad3ad4ad5ad6ad7ad8ad9ac7",
    "ad0ad1ad2ad3ad4ad5ad6ad7ad8ad9ac8ad0ad1ad2ad3ad4ad5ad6ad7ad8ad9ac9ad0ad1ad2ad3ad4ad5ad6ad7",
    "ad8ad9abTacSabULCANUSadGAR FRACTION FIVE EIGHTHSavSIXTHSarOUR FIFTHSaqONE EIGHTHauFIFTH",
    "auHALFauNINTHauQUARTERauSEVENTHavIXTHauTENTHavHIRDaqSEVEN EIGHTHSaqTHREE EIGHTHSawFIFTHS",
    "awQUARTERSarWO FIFTHSauTHIRDSaqZERO THIRDS"]

/-- The names that begin with W. -/
def listW : List String :=
  ["aaWAFFLEacNCHO DIGIT EIGHTanFIVEaoOURanNINEanONEanSEVENaoIXanTHREEaoWOanZEROahLETTER AapAaqN",
    "arGapNGapUaoBAaoCAaoDAaoEapNaoFAaoGAaoHAaoIapNGaoJAaoKAapHAaoLAapLHAaoMAaoNAapGAapYAaoOapN",
    "aqGaoPAapHAaoRAaoSAapHAaoTAapHAapRAapSAaoUapENaoVAaoWAaoYAapIHaoZAahNGUN SIGNahTONE KOIapNI",
    "amTUPapNIadING CRESCENT MOON SYMBOLahGIBBOUS MOON SYMBOLacRANG CITI CAPITAL LETTER AbcMbcNG",
    "bcTbbBUbbDAbbEbcNNbdYbbGAbbHARbcIYObcOLObdRRbbIIbbKObbNGAAbcUNGbbObcDDbbPUbbSIIbcSUUbbTTE",
    "bbUCbcUbbVIYObbWIbbYAbcObcUbdJamDIGIT EIGHTasFIVEatOURasNINEasONEasSEVENatIXasTHREEatWO",
    "asZEROamNUMBER EIGHTYatFIFTYauORTYatNINETYatSEVENTYauIXTYatTENauHIRTYauWENTYamOM",
    "amSMALL LETTER AbaMbaNGbaTazBUazDAazEbaNNbbYazGAazHARbaIYObaOLObbRRazIIazKOazNGAAbaUNGazO",
    "baDDazPUazSIIbaSUUazTTEazUCbaUazVIYOazWIazYAbaObaUbbJadNING SIGNacSTEBASKETacTCHadER BUFFALO",
    "agCLOSETagPOLOagWAVEafMELONacVE ARROW POINTING DIRECTLY LEFTbdRIGHTafDASHadING BLACK FLAG",
    "ahHAND SIGNahWHITE FLAGadY DASHafLINEagOW LINEafOVERLINEacXING CRESCENT MOON SYMBOL",
    "ahGIBBOUS MOON SYMBOLabEARY CAT FACEagFACEacDDINGadGE-TAILED RIGHTWARDS ARROW",
    "acIERSTRASS ELLIPTIC FUNCTIONadGHT LIFTERacST SYRIAC CROSSabHALEacEELaf OF DHARMA",
    "afCHAIR SYMBOLacITE ARROW SHAFT WIDTH ONEayTWO THIRDSagBULLETagCHESS BISHOP",
    "as ROTATED NINETY DEGREESbbTWO HUNDRED SEVENTY DEGREESamEQUIHOPPERaw ROTATED NINETY DEGREES",
    "amKINGaq ROTATED NINETY DEGREESazTWO HUNDRED SEVENTY DEGREESanNIGHT",
    "as ROTATED FORTY-FIVE DEGREESbbNINETY DEGREESbbONE HUNDRED THIRTY-FIVE DEGREES",
    "bbTHREE HUNDRED FIFTEEN DEGREESbcWO HUNDRED SEVENTY DEGREESbnTWENTY-FIVE DEGREESas-BISHOP",
    "atQUEENatROOKamPAWNaq ROTATED NINETY DEGREESazTWO HUNDRED SEVENTY DEGREESamQUEEN",
    "ar ROTATED NINETY DEGREESbaTWO HUNDRED SEVENTY DEGREESamROOKaq ROTATED NINETY DEGREES",
    "azTWO HUNDRED SEVENTY DEGREESamTURNED BISHOPatKINGauNIGHTatPAWNatQUEENatROOKahIRCLE",
    "am CONTAINING BLACK SMALL CIRCLEanWITH DOT RIGHTauWN ARROWasLOWER LEFT QUADRANT",
    "ayRIGHT QUADRANTasTWO DOTSasUPPER LEFT QUADRANTayRIGHT QUADRANTahLUB SUIT",
    "ahONCAVE-SIDED DIAMONDbb WITH LEFTWARDS TICKbhRIGHTWARDS TICKagDIAMOND",
    "an CONTAINING BLACK MEDIUM DIAMONDbfSMALL DIAMONDbfVERY SMALL DIAMONDaoIN SQUAREaoSUIT",
    "aoWITH CENTRED DOTahOWN POINTING BACKHAND INDEXauINDEXauLEFT HAND INDEX",
    "ak-POINTING SMALL TRIANGLEauTRIANGLEahRAUGHTS KINGapMANagEXCLAMATION MARK ORNAMENTagFLAG",
    "ak WITH HORIZONTAL MIDDLE BLACK STRIPEaiORETTEajWERahOUR POINTED CUSPatSTARahROWNING FACE",
    "agHARD SHELL FLOPPY DISKahEARTal SUITajVY CHECK MARKamSALTIRE WITH ROUNDED CORNERSaiXAGON",
    "ahORIZONTAL ELLIPSEaiURGLASSagLARGE SQUAREaiTIN CROSSahEFT LANE MERGE",
    "alPOINTING BACKHAND INDEXauINDEXak-POINTING POINTERauSMALL TRIANGLEauTRIANGLE",
    "ahOZENGE CONTAINING BLACK SMALL LOZENGEagMEDIUM DIAMONDanLOZENGEanSMALL SQUAREaoQUAREaoTAR",
    "ahOON SELENAagNIBagPARALLELOGRAMahENNANTajTAGONagQUESTION MARK ORNAMENTagRECTANGLE",
    "ahIGHT POINTING BACKHAND INDEXavINDEXal-POINTING PENTAGONawOINTERavSMALL TRIANGLEavTRIANGLE",
    "agSCISSORSahESAME DOTahHOGI PIECEahMALL LOZENGEamSQUAREanTARaiILING FACEahPADE SUITahQUARE",
    "am BUTTONanCONTAINING BLACK MEDIUM SQUAREbeSMALL SQUAREbeVERY SMALL SQUARE",
    "anWITH CENTRE VERTICAL LINEasLEFTWARDS TICKatOWER LEFT QUADRANTayRIGHT QUADRANT",
    "asRIGHTWARDS TICKatOUNDED CORNERSasUPPER LEFT QUADRANTayRIGHT QUADRANT",
    "asVERTICAL BISECTING LINEahTARahUNaj BEHIND CLOUDaw WITH RAINakWITH RAYSapSMALL CLOUD",
    "agTELEPHONEahOUCHTONE TELEPHONEahRAPEZIUMaiIANGLE CONTAINING SMALL WHITE TRIANGLE",
    "ahWO-WAY LEFT WAY TRAFFICagUP POINTING BACKHAND INDEXasINDEXai-POINTING CHEVRON",
    "asSMALL TRIANGLEasTRIANGLEba WITH DOTagVERTICAL BARapELLIPSEapRECTANGLEajY SMALL SQUARE",
    "af-FEATHERED RIGHTWARDS ARROWabIDE-HEADED DOWNWARDS BARB ARROWawHEAVY BARB ARROW",
    "awLIGHT BARB ARROWawMEDIUM BARB ARROWawVERY HEAVY BARB ARROWamLEFTWARDS BARB ARROW",
    "awHEAVY BARB ARROWawLIGHT BARB ARROWawMEDIUM BARB ARROWawVERY HEAVY BARB ARROW",
    "amNORTH EAST BARB ARROWaxHEAVY BARB ARROWaxLIGHT BARB ARROWaxMEDIUM BARB ARROW",
    "axVERY HEAVY BARB ARROWasWEST BARB ARROWaxHEAVY BARB ARROWaxLIGHT BARB ARROW",
    "axMEDIUM BARB ARROWaxVERY HEAVY BARB ARROWamRIGHTWARDS BARB ARROWaxHEAVY BARB ARROW",
    "axLIGHT BARB ARROWaxMEDIUM BARB ARROWaxVERY HEAVY BARB ARROWamSOUTH EAST BARB ARROW",
    "axHEAVY BARB ARROWaxLIGHT BARB ARROWaxMEDIUM BARB ARROWaxVERY HEAVY BARB ARROW",
    "asWEST BARB ARROWaxHEAVY BARB ARROWaxLIGHT BARB ARROWaxMEDIUM BARB ARROW",
    "axVERY HEAVY BARB ARROWamUPWARDS BARB ARROWauHEAVY BARB ARROWauLIGHT BARB ARROW",
    "auMEDIUM BARB ARROWauVERY HEAVY BARB ARROWacGGLY VERTICAL LINEacLTED FLOWERacND BLOWING FACE",
    "afCHIMEaeOWadE GLASSadKING FACEacRED KEYBOARDabJabOLF FACEacMANaf WITH BUNNY EARSafS BOOTS",
    "ahCLOTHESahHATahSANDALadENS SYMBOLacN SIGNacODacRD JOINERafSEPARATOR MIDDLE DOTadLD MAPadM",
    "adRIED FACEabRAPPED PRESENTacEATH PRODUCTadNCHadSTLERSacITING HAND"]

/-- The names that begin with X. -/
def listX : List String :=
  ["aaX IN A RECTANGLE BOXab-RAYabIANGQI BLACK CANNONapHARIOTaoELEPHANTaoGENERALaoHORSE",
    "aoMANDARINaoSOLDIERaiRED CANNONanHARIOTamELEPHANTamGENERALamHORSEamMANDARINamSOLDIERabOR"]

/-- The names that begin with Y. -/
def listY : List String :=
  ["aaYAWNING FACEabELLOW HEARTacN SIGNacZIDI COMBINING HAMZA MARKarMADDA MARKahHYPHENATION MARK",
    "ahLETTER BEaoCHHIMaqIMapIMaoDADaqLaoELIFapTapWapYNaoFAaoGAFaoHAYapHAaoJAaoKAFapHAFaoLAM",
    "ar WITH DOT ABOVEaoMIMaoNUNaoOWaoPEapHEaoQAFaoRAapHAaoSADapEapHINapINaoTAapHEaoUMaoVA",
    "aq ALTERNATE FORMaoWAWaoXAapHEYNaoYOTar WITH CIRCUMFLEX ABOVEaoZAaqLapEabI RADICAL BBUTamUR",
    "alCHEamIPamUOPamYanPanTalDDURamUalGAamEPamGOPanUOamOTalHMOamXITanOPanUOalJJIEanUTanYamOalKE",
    "amITalLIanEamYRalMIamOPalNBIEamYIPanOPamZUPalOPalPUTamYTalQOTalSHATanOPanURanYamSIalTATamU",
    "alVEPamURalWOalYITamOalZAamOTamUPanRamZIETadSYLLABLE AanPanTanXamBAaoPaoTaoXanBAapPapTapXaoE",
    "apPapXaoIapEaqPaqTaqXapPapTapXaoOapPapTapXaoUapOaqPaqXapPapRaqXapTapXaoYapPapTapXanEaoPaoX",
    "anIaoEapPapTapXaoPaoTaoXanOaoPaoTaoXanUaoOapPapXaoPaoRapXaoTaoXanYaoPaoRapXaoTaoXamCAaoPaoT",
    "aoXanEaoPaoXanHAapPapTapXaoEapPapTapXaoOapPapTapXaoUapOaqPaqTaqXapPapRaqXapXaoYapPapRaqXapT",
    "apXanIaoEapPapTapXaoPaoTaoXanOaoPaoTaoXanUaoOapPapXaoPaoRapXaoTaoXanYaoPaoRapXaoTaoXamDAaoP",
    "aoTaoXanDAapPapTapXaoEapPapXaoIapEaqPaqXapPapTapXaoOapPapTapXaoUapOaqPaqXapPapRaqXapTapXanE",
    "aoPaoXanIaoEapPapXaoPaoTaoXanOaoPaoTaoXanUaoOapXaoPaoRapXaoTaoXamEanXamFAaoPaoTaoXanIaoPaoT",
    "aoXanOaoPaoXanUaoPaoRapXaoTaoXanYaoPaoTaoXamGAaoPaoTaoXanEaoPaoTaoXanGAapPapTapXaoEapPapTapX",
    "aoIapEaqPaqXapTapXaoOapPapTapXaoUapOaqPaqTaqXapPapRaqXapTapXanIaoEapPapTapXaoPaoTaoXanOaoP",
    "aoTaoXanUaoOapPapTapXaoPaoRapXaoTaoXamHAaoPaoTaoXanEaoPaoXanIEapXaoTanLAapPapTapXaoEapPapX",
    "aoIapEaqPaqXapPapTapXaoOapPapXaoUapOaqPaqXapPapRaqXapTapXaoYapPapRaqXapTapXanMAapPapTapXaoI",
    "apEaqPaqXapPapTapXaoOapPapTapXaoUapOaqPaqXapPapRaqXapTapXaoYapPapRaqXapXanNAapPapTapXaoEapP",
    "apXaoIapEaqPaqTaqXapPapTapXaoOPapTapXaoUOaqXapTanOaoPaoTaoXanUOapPapTapXanXAapPapTapXaoEapP",
    "apXaoIapEaqPaqTaqXapPapTapXaoOapPapTapXaoUOaqPaqTaqXamIanEaoPaoTaoXanPanTaoERATION MARKanX",
    "amJIaoEapPapTapXaoPaoTaoXanJIapEaqPaqTaqXapPapTapXaoOapPapTapXaoUapOaqPaqXapPapRaqXapTapXaoY",
    "apPapTapXanOaoPaoTaoXanUaoOapPapTapXaoPaoRapXaoTaoXanYaoPaoRapXaoTaoXamKAaoPaoTaoXanEaoPaoT",
    "aoXanIaoEapPapXaoPaoTaoXanOaoPaoTaoXanUaoOapPapXaoPaoRapXaoTaoXamLAaoPaoTaoXanEaoPaoXanIaoE",
    "apPapTapXaoPaoTaoXanOaoPaoTaoXanUaoOapPapTapXaoPaoRapXaoTaoXanYaoPaoRapXaoTaoXamMAaoPaoTaoX",
    "anEaoXanGAapPapTapXaoEapPapXaoIEaqXaoOapPapTapXaoUapOaqPaqXapPapRaqXapTapXanIaoEapPapXaoPaoT",
    "aoXanOaoPaoTaoXanUaoOapPapTapXaoPaoRapXaoTaoXanYaoPaoTaoXamNAaoPaoXanBAapPapTapXaoIapEaqPaqX",
    "apPapTapXaoOapPapTapXaoUapPapRaqXapTapXaoYapPapRaqXapTapXanDAapPapTapXaoEapPapXaoIapEaqXapP",
    "apTapXaoOapPapTapXaoUapPapRaqXapTapXanEaoPaoXanGAapPapTapXaoEapPapXaoIEaqPaqXaoOapPapTapX",
    "aoUOaqTaqXanIaoEapPapXaoPaoTaoXanJIapEaqPaqTaqXapPapTapXaoOapPapTapXaoUapOaqXapPapRaqXapXaoY",
    "apPapRaqXapTapXanOaoPaoTaoXanRAapPapTapXaoEapPapTapXaoOapPapXaoUapPapRaqXapTapXaoYapPapRaqX",
    "apTapXanUaoOapPapXaoPaoRapXaoTaoXanYIapEaqPaqTaqXapPapTapXaoOapPapTapXaoUapOaqPaqXapPapTapX",
    "anZAapPapTapXaoEapXaoIapEaqPaqXapPapTapXaoOPapXaoUapOaqXapPapRaqXapXaoYapPapRaqXapTapXamOanP",
    "anTanXamPAaoPaoTaoXanIaoEapPapXaoPaoTaoXanOaoPaoTaoXanUaoOapPapXaoPaoRapXaoTaoXanYaoPaoRapX",
    "aoTaoXamQIaoEapPapTapXaoPaoTaoXanOaoPaoTaoXanUaoOapPapTapXaoPaoRapXaoTaoXanYaoPaoRapXaoTaoX",
    "amRAaoPaoTaoXanEaoPaoXanOaoPaoTaoXanRAapXaoEapPapTapXaoOapPapTapXaoUapOaqXapPapRaqXapTapXaoY",
    "apPapRaqXapTapXanUaoOapPapXaoPaoRapXaoTaoXanYaoPaoRapXaoTaoXamSAaoPaoTaoXanEaoPaoXanHAapPapT",
    "apXaoEapPapTapXaoOapPapTapXaoUapOaqPaqXapPapRaqXapTapXaoYapPapRaqXapTapXanIaoEapPapXaoPaoT",
    "aoXanOaoPaoTaoXanSAapPapTapXaoEapPapXaoIapEaqPaqXapPapTapXaoOapPapTapXaoUapPapTapXaoYapPapR",
    "aqXapTapXanUaoOapPapXaoPaoRapXaoTaoXanYaoPaoRapXaoTaoXamTAaoPaoTaoXanEaoPaoXanIaoEapPapXaoP",
    "aoTaoXanOaoPaoTaoXanUaoOapPapTapXaoPaoRapXaoTaoXamUOaoPaoXamVAaoPaoTaoXanEPaoXanIaoEapPapT",
    "apXaoPaoTaoXanOaoPaoTaoXanUaoPaoRapXaoTaoXanYaoPaoRapXaoTaoXamWAaoPaoTaoXanEaoPaoXanOaoPaoX",
    "anUaoOapPapXamXIaoEapPapTapXaoPaoTaoXanOaoPaoTaoXanUOapXanYaoPaoRapXaoTaoXamYIaoEapPapTapX",
    "aoPaoTaoXanOaoPaoTaoXanUaoOapPapTapXaoPaoRapXaoTaoXanYaoPaoRapXaoTaoXamZAaoPaoTaoXanEaoPaoX",
    "anHAapPapTapXaoEapPapTapXaoOapPapTapXaoUapOaqPaqXapPapRaqXapTapXaoYapPapRaqXapTapXanIaoEapP",
    "apXaoPaoTaoXanOaoPaoTaoXanUaoOapPapXaoPaoRapXaoTaoXanYaoPaoRapXaoTaoXanZAapPapTapXaoEapPapX",
    "aoIapEaqPaqTaqXapPapTapXaoOapPapXaoUapPapRaqXapXaoYapPapRaqXapTapXacN YANGabO-YO"]

/-- The names that begin with Z. -/
def listZ : List String :=
  ["aaZ NOTATION BAG MEMBERSHIPalDOMAIN ANTIRESTRICTIONalLEFT BINDING BRACKETaqIMAGE BRACKET",
    "alRANGE ANTIRESTRICTIONamELATIONAL COMPOSITIONamIGHT BINDING BRACKETarIMAGE BRACKET",
    "alSCHEMA COMPOSITIONasPIPINGatROJECTIONamPOTalTYPE COLON",
    "abANABAZAR SQUARE CLOSING DOUBLE-LINED HEAD MARKazHEAD MARKatUSTER-FINAL LETTER LAbmRAbmVA",
    "bmYAazINITIAL LETTER RAarFINAL CONSONANT MARKarINITIAL DOUBLE-LINED HEAD MARKazHEAD MARK",
    "arLETTER -AayAayBAazHAayCAazHAayDAazDAbaHAazHAazZAbaHAayGAazHAayHAayJAayKAazHAazSSAayLAayMA",
    "ayNAazGAazNAazYAayPAazHAayRAaySAazHAazSAayTAazHAazSAbaHAazTAbaHAayVAayYAayZAazHA",
    "arMARK DOUBLE SHADawLONG TSHEGawSHADawTSHEGarSIGN ANUSVARAawCANDRA WITH ORNAMENTbcBINDU",
    "bh WITH ORNAMENTawVIRAMAaySARGAasUBJOINERarVOWEL LENGTH MARKaxSIGN AIbdUbcEbcIbcObdE",
    "bcREVERSED IbcUbdEabEBRA FACEacRO WIDTH JOINERalNO-BREAK SPACEanN-JOINERalSPACEacUS",
    "abIPPER-MOUTH FACEabNAMENNY COMBINING ATTACHING VERTICAL OMETatLOWER TONAL RANGE INDICATOR",
    "atMARK BORZAYAayCHASHKAbf POLNAYAazURVED OMETayDEMESTVENNY ZADERZHKAazVOETOCHIE",
    "ayGORAZDO NIZKO ON LEFTbpRIGHTbmS KRYZHEM ON LEFTbzRIGHTbgVYSOKOayKACHKAazRYZHbd ON LEFT",
    "azUPNAYAayLOMKAayMALO POVYSHE ON LEFTboRIGHTblS KHOKHLOM ON LEFTbzRIGHTboRYZHEMbmTRANNO",
    "ayNIZKO ON LEFTbhRIGHTbeS KRYZHEM ON LEFTbrRIGHTayOBLACHKOazNazTSECHKAayPODCHASHIE",
    "bi WITH VERTICAL STROKEbbVERTKAbaVYSHE ON LEFTbjRIGHTbgS KHOKHLOM ON LEFTbuRIGHTbjRYZHEM",
    "bhTRANNOayRAVNObaZSEKAaySKOBAazOROCHYA NOZHKAazREDNE ON LEFTbiRIGHTazTRANNO MALO POVYSHE",
    "ayTIKHAYAazOCHKAazSATA ON LEFTbhRIGHTbeS KRYZHEMayUDARKAayVYSOKO ON LEFTbiRIGHT",
    "bfS KHOKHLOM ON LEFTbtRIGHTbiRYZHEMayZADERZHKAazELObaVOKatTONAL RANGE MARK MRACHNObkSVETLO",
    "bkTRESVETLOajNEUME CHASHKAarELYUSTKAapDEMESTVENNY KLYUCHarRBITSAaqOUBLE ZAPYATAYAaqUDA",
    "aqVA V CHELNUapFITAapGOLUBCHIK BORZYazMRACHNYazSVETLYazTIKHYbaRESVETLYapKHAMILOaqLYUCH",
    "aqOBYLAaqRYUKau TIKHYasZHaqUFISMAapMECHIKav KLYUCHENEPOSTOYANNYbdPOVODNYbdVOYawPOVODNY",
    "apNEMKAapOBLAKOaqSOKAau KLYUCHEVAYA NEPOSTOYANNAYAbhSVETLAYAawRYUKOVAYA SVETLAYAavSVETLAYA",
    "avTRESVETLAYAapPALKAarRAKLITarUKaqEREVODKAay NEPOSTOYANNAYAaqODCHASHIEarLKULIZMY",
    "apREVERSED CHELYUSTKAaqOGapSKAMEYTSA DVOECHELNAYA KLYUCHEVAYAbmNEPOSTOYANNAYAbmPROSTAYA",
    "bmSVETLAYAazKLYUCHENEPOSTOYANNAYAbgVAYA SVETLAYAblTIKHAYAazMRACHNAYAazSVETLAYAazTIKHAYA",
    "baRESVETLAYAaqLOZHITIEay S KRYZHEMbbZAPYATOYazZAKRYTOEaqTATYAav NEPOSTOYANNAYA",
    "awS DVUMYA ZAPYATYMIayKRYZHEMbf I ZAPYATOYayROGOMayZAPYATOYbg I KRYZHEMbjPODCHASHIEM",
    "awZAKRYTAYAbf S ZAPYATOYarOPITSAax S OCHKOMayWITH SOROCHYA NOZHKAarRELA DVOECHELNAYA",
    "bi KLYUCHEVAYAbfOKRYZHEVAYAbgPOVODNAYAbp KLYUCHEVAYAawGROMNAYAbe WITH SINGLE ZAPYATAYA",
    "baOKRYZHEVAYAbl POVODNAYAbbPOVODNAYAbk WITH DOUBLE ZAPYATAYAbqSINGLE ZAPYATAYA",
    "awKLYUCHENEPOSTOYANNAYAbdPOVODNAYAaxRYUKOVAYAbg GROMNAYAbp WITH SINGLE ZAPYATAYA",
    "blOKRYZHEVAYAbw POVODNAYAbmPOVODNAYAbv WITH DOUBLE ZAPYATAYAcbSINGLE ZAPYATAYAbhPOVODNAYA",
    "bhTRYASKAazZHEVAYAawMRACHNOTIKHAYAawNEPOSTOYANNAYAawPOLUPOVODNAYAayVODNAYAaxROSTAYA",
    "awTIKHAYA PUTNAYAaxRYASOGLASNAYAbcPOVODNAYAbcSTRELNAYAapVRAKHIYA KLYUCHEVAYA MRACHNAYA",
    "bkPROSTAYAbkSVETLAYAbkTRESVETLAYAayMRACHNAYAayPROSTAYAaySVETLAYAayTRESVETLAYAapZANOZHEK",
    "arPYATAYAaqMEYTSAajPRIZNAK MODIFIER DIRECTION FLIPbaKRYZHbaLEVEL-2bg3baROGabOMBIEabWJacNBSP",
    "adJacSP"]

/-- The list of the names that begin with a letter. -/
def listOf : Char → List String
  | 'A' => listA
  | 'B' => listB
  | 'C' => listC
  | 'D' => listD
  | 'E' => listE
  | 'F' => listF
  | 'G' => listG
  | 'H' => listH
  | 'I' => listI
  | 'J' => listJ
  | 'K' => listK
  | 'L' => listL
  | 'M' => listM
  | 'N' => listN
  | 'O' => listO
  | 'P' => listP
  | 'Q' => listQ
  | 'R' => listR
  | 'S' => listS
  | 'T' => listT
  | 'U' => listU
  | 'V' => listV
  | 'W' => listW
  | 'X' => listX
  | 'Y' => listY
  | 'Z' => listZ
  | _ => []

end CharacterName

end Lookalike
