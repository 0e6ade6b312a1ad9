import Overseer.Text.Ranges

/-!
The scripts of Unicode 16.0: the code points that belong to each, and those that are used with it.
-/

namespace Overseer.Text.Unicode

structure Script where
  names : List String
  own : Ranges
  used : Ranges

namespace Script

def ofPacked (names own used : List String) : Script :=
  ⟨names, unpack own, if used.isEmpty then unpack own else unpack used⟩

def all : List Script := [
  ofPacked ["adlm", "adlam"]
    ["HDEuCxejeb"]
    ["CIhaBgaJWoaFHhaGLRiCxejeb"],
  ofPacked ["aghb", "caucasianalbanian"]
    ["DUXsBzla"]
    ["BDsaBsaBsaDTQnBzla"],
  ofPacked ["ahom"]
    ["EBRcBacoew"]
    [],
  ofPacked ["arab", "arabic"]
    ["CHcebfbnbcbBfbjlzbEdbBhDcBvJgBebbfCwbBcDNTwEkqNycDbcCbhaBgpEiebFeFVnBeCpcCddDGLsdbBabbba",
      "cabjbdbabagaeabababcbbbacabababababbbacdbgbdbdbabjbqfcbebqCab"]
    ["CHcebIgbBhDcBvJgBebbfCwbBcIVnaFHhaCZRaEkqRccCbhaBgpEiebFeBMhBbEIeBeCpcCddDGLsdbBabbbacab",
      "jbdbabagaeabababcbbbacabababababbbacdbgbdbdbabjbqfcbebqCab"],
  ofPacked ["armi", "imperialaramaic"]
    ["DWBwvbi"]
    [],
  ofPacked ["armn", "armenian"]
    ["BZdBlcBxccDOZje"]
    ["BDwaVgBlcBxccDOZje"],
  ofPacked ["avst", "avestan"]
    ["DXCyCbdg"]
    ["HbaRFsbDFQcCbdg"],
  ofPacked ["bali", "balinese"]
    ["KFwCybBx"]
    [],
  ofPacked ["bamu", "bamum"]
    ["CLCqDjCVCqVw"]
    [],
  ofPacked ["bass", "bassavah"]
    ["FHKiBdcf"]
    [],
  ofPacked ["batk", "batak"]
    ["KNgBzid"]
    [],
  ofPacked ["beng", "bengali"]
    ["DPodbhcbcvbgbaddcicbcdiaebbecy"]
    ["BAyaCMubrbBadbhcbcvbgbaddcicbcdiaebbecyHDhabacbbaiaiacaeaccCBAfa"],
  ofPacked ["bhks", "bhaiksuki"]
    ["EDOiibBsbnkBc"]
    [],
  ofPacked ["bopo", "bopomofo"]
    ["BCsbRLxBqEiBf"]
    ["BBjabcnaqbRBxcejbmkdcagaHnajBqEiBfCZLtbKwe"],
  ofPacked ["brah", "brahmi"]
    ["DZAeCzeBjja"]
    [],
  ofPacked ["brai", "braille"]
    ["PDwJv"]
    [],
  ofPacked ["bugi", "buginese"]
    ["JWaBbcb"]
    ["JWaBbcbCCKta"],
  ofPacked ["buhd", "buhid"]
    ["IUyt"]
    ["IUnbjt"],
  ofPacked ["cakm", "chakma"]
    ["DZKaCabr"]
    ["DTmjCKejDTFqCabr"],
  ofPacked ["cans", "canadianaboriginal"]
    ["HOyYpVoCrDTPqp"]
    [],
  ofPacked ["cari", "carian"]
    ["DTYmBw"]
    ["HbaLZmacaFGdaDCLqBw"],
  ofPacked ["cham"]
    ["CMJwCcjncjcd"]
    [],
  ofPacked ["cher", "cherokee"]
    ["HLgDhcfCFJeDb"]
    ["BDocbagbwblbGFuDhcfCFJeDb"],
  ofPacked ["chrs", "chorasmian"]
    ["DYXcBb"]
    [],
  ofPacked ["copt", "coptic", "qaac"]
    ["BMgnPJkElfg"]
    ["HbaWmadbbaEebEenPJkElfgKtaDCPcBb"],
  ofPacked ["cpmn", "cyprominoan"]
    ["EKYyDu"]
    ["DTImbRQkDu"],
  ofPacked ["cprt", "cypriot"]
    ["DVZkfcabBrbbdaca"]
    ["DTImceBsdiCOmfcabBrbbdaca"],
  ofPacked ["cyrl", "cyrillic"]
    ["BNkFccGmIVokGeaCyaGFnBfBTOaDrBHEcbDHPgCjBha"]
    ["BAyaCpcbababacafaJeLrIVokGeaCyaExaGApBfCpaBTLkDrBHEcbDHPgCjBha"],
  ofPacked ["deva", "devanagari"]
    ["DKqDceoczCIJgBfBREmj"]
    ["BAyaCJrDecBqHIeBmbbBNaaBZFrjGkBfBREmj"],
  ofPacked ["diak", "divesakuru"]
    ["ECKugcachbbbBdbbcljj"]
    [],
  ofPacked ["dogr", "dogra"]
    ["ECAyCh"]
    ["DOmlCIDcjBQIoCh"],
  ofPacked ["dsrt", "deseret"]
    ["DUMaDb"]
    [],
  ofPacked ["dupl", "duployan"]
    ["GMDsEcfmdihjcd"]
    ["HbaWtbbaybQIhaFUQlEcfmdihjch"],
  ofPacked ["egyp", "egyptianhieroglyphs"]
    ["ELDgBQrkFXq"]
    [],
  ofPacked ["elba", "elbasan"]
    ["DUVwBn"]
    ["HbaWraDTScBn"],
  ofPacked ["elym", "elymaic"]
    ["DYYyw"]
    [],
  ofPacked ["ethi", "ethiopic"]
    ["GVgCubdcgbabdcBobdcBgbdcgbabdcobCebdcCocBfdzJVawjgbgbgbgbgbgbgbgBVKcfcfcfjgbgEPYfgbdbbbo"]
    ["BEcaFRdCubdcgbabdcBobdcBgbdcgbabdcobCebdcCocBfdzJVawjgbgbgbgbgbgbgbgBVKcfcfcfjgbgEPYfgbd",
      "bbbo"],
  ofPacked ["geor", "georgian"]
    ["GHsBlbafacBqbdEJwBqccGEaBlbafa"]
    ["HbaBVlaEFeBlbafacBvEJwBqccBJmaEUnBlbafaJza"],
  ofPacked ["glag", "glagolitic"]
    ["QRgDrGIZggbqcgbbbe"]
    ["HbaWpabaOsacaJxaEIraFViaEKrDrSpaBTNfaEOTkgbqcgbbbe"],
  ofPacked ["gong", "gunjalagondi"]
    ["EEBwfbbbBkbbbfhj"]
    ["HbaDHkbEANifbbbBkbbbfhj"],
  ofPacked ["gonm", "masaramgondi"]
    ["EDYegbbbBrdabbbiij"]
    ["DOmbEAJqgbbbBrdabbbiij"],
  ofPacked ["goth", "gothic"]
    ["DUEaBa"]
    ["HbaWqbcaBoaDSYoBa"],
  ofPacked ["gran", "grantha"]
    ["EADsdbhcbcvbgbbbecicbcccagafgcgde"]
    ["DNtbrbYqnGKaabbBecdbBNaaDNRjdbhcbcvbgbbbebjcbcccagafgcgdeERrbba"],
  ofPacked ["grek", "greek"]
    ["BHwdbccdbaeababcbabtbCkopJNqeByeeeDgaMivcfcBlcfchbabababBecCabobncfbsccbiLjaCAJeaBGNiDar",
      "aDAXrCr"]
    ["HbaWmbcababakaBuacaBqhcdbaeababcbabtbCkopJNqeByeeeDgcMgvcfcBlcfchbabababBecCabobncfbsccb",
      "iDqaHsaCAJeaBGNiDaraDAXrCr"],
  ofPacked ["gujr", "gujarati"]
    ["DZlcbibcbvbgbbbecjbcbccapdclhg"]
    ["DNtbrbKxcbibcbvbgbbbecjbcbccapdclhgCHNsj"],
  ofPacked ["guru", "gurmukhi"]
    ["DUncbfebcvbgbbbbbbcabeebccdahdbahq"]
    ["DNtbrbFzcbfebcvbgbbbbbbcabeebccdahdbahqCHSzj"],
  ofPacked ["hang", "hangul"]
    ["GLkJvLLebJxDpEjBeCnBeBTAnBcYtQNrmweBwPAiBedfcfcfcc"]
    ["GLkJvLJlcejbmocgaHnaCbDpEjBeCnBeBTAnBcYtQNrmweBwOMzbKweCgBedfcfcfcc"],
  ofPacked ["hani", "han"]
    ["RPwzbDkmIfBvabaziodBLcJTnCmBFBjBHSiObcEbBSIibmbCCOkCLFbBgGDtgIncINpoLBkpXxDQwUvCFyHHyfGF",
      "f"]
    ["HbaRIuzbDkmIfBapbcbmbmbmcagiHfaFspBgBljaBwBnCeBwplBzaDkykeDsBebJTnCmBFBjCQyhBFBcObcEbBHr",
      "bKweBQPobmbBLRarLRybFEsCLFbBgGDtgIncINpoLBkpXxDQwUvCFyHHyfGFf"],
  ofPacked ["hano", "hanunoo"]
    ["ITsu"]
    ["ITsw"],
  ofPacked ["hatr", "hatran"]
    ["DWIasbbfe"]
    [],
  ofPacked ["hebr", "hebrew"]
    ["CCvCciBaefDOVwzbebabbbbbj"]
    ["BDvbYyCciBaefDOVwzbebabbbbbj"],
  ofPacked ["hira", "hiragana"]
    ["SHdDhgcFPEvLasaBdcYMva"]
    ["SErcejbmqfbaebdDhchDmbCZTgbKwekaBtbCOUrLasaBdcYMva"],
  ofPacked ["hluw", "anatolianhieroglyphs"]
    ["ESSeWk"]
    [],
  ofPacked ["hmng", "pahawhhmong"]
    ["FHMeCrkjbgbufs"]
    [],
  ofPacked ["hmnp", "nyiakengpuachuehmong"]
    ["HAEaBsdncjeb"]
    [],
  ofPacked ["hung", "oldhungarian"]
    ["DXRsBynByhf"]
    ["MGoacaFGdapaDGEgBynByhf"],
  ofPacked ["ital", "olditalic"]
    ["DUCeBjjc"]
    [],
  ofPacked ["java", "javanese"]
    ["CMEyCzcjeb"]
    ["CMEyCzbkeb"],
  ofPacked ["kali", "kayahli"]
    ["CMAaBtba"]
    ["CMAaBv"],
  ofPacked ["kana", "katakana"]
    ["SKvDlccJgpIaBubDjCZHejbBsCOUcdbgbbbaLbcByaod"]
    ["BDtaBdaQZtcejbmqfbaebDnddDrJgpIaBubDjCYWbbKwCkCOUadbgbbbaLbcByaod"],
  ofPacked ["kawi"]
    ["EERwqbBodBc"]
    [],
  ofPacked ["khar", "kharoshthi"]
    ["DWTcdbbfhbcbBcccejhi"]
    [],
  ofPacked ["khmr", "khmer"]
    ["IXkDpcjgjSsBf"]
    [],
  ofPacked ["khoj", "khojki"]
    ["DZTwrbBu"]
    ["EDijCHOijBOBmrbBu"],
  ofPacked ["kits", "khitansmallscript"]
    ["FJIiaKGxSbBpa"]
    [],
  ofPacked ["knda", "kannada"]
    ["ETcmbcbwbjbecibcbdhbgbbdcjbc"]
    ["DNtbrbBEombcbwbjbecibcbdhbgbbdcjbcGAeabbgaxabaCASxf"],
  ofPacked ["kthi", "kaithi"]
    ["DZFcCoka"]
    ["DOojNXxaBUFejBNMsCoka"],
  ofPacked ["lana", "taitham"]
    ["JXgCkbBcckgjgn"]
    [],
  ofPacked ["laoo", "lao"]
    ["FMvbbabebxbabwcebabgbjcd"]
    [],
  ofPacked ["latn", "latin"]
    ["CnzgzBvapafwbBebRgBneJXbBlgBwfdfmbCrCnJvOfanaqmFlbgaBbarBoECtBfBULmDxdCocbbabhvnBFkBqbib",
      "dBEDqgBOkzgzDCffbBpbiDDNpBegf"]
    ["CnzgzBvamacafwbBebRgdakabcbajabageBbobbbapchbbbBmafaemKrbBVebCXkaEOiBlgBwfdfmbCrCfahJvLr",
      "aCnanaqmDfaCfbgaBbarBoECtBfPraBTUmhBaDxdCocbbabhvnLqaTtBqbibdBEDqgBOkzgzDCffbBpbiDDNpBeg",
      "f"],
  ofPacked ["lepc", "lepcha"]
    ["KPsCddodc"]
    [],
  ofPacked ["limb", "limbu"]
    ["JMeBebleleadl"]
    ["DOnaFXqBebleleadl"],
  ofPacked ["lina", "lineara"]
    ["DVFsLyjvkh"]
    ["DTItBsBVgLyjvkh"],
  ofPacked ["linb", "linearb"]
    ["DSYqlbzbsbbbocnBiEs"]
    ["DSYqlbzbsbbbocnBiEsfceBsdi"],
  ofPacked ["lisu"]
    ["CKKuBvBUMaa"]
    ["BAyaqaRDkbBSFsBvBUMaa"],
  ofPacked ["lyci", "lycian"]
    ["DTXgBc"]
    ["MGoaDHQrBc"],
  ofPacked ["lydi", "lydian"]
    ["DWKmzfa"]
    ["HbaRFtaDEXqzfa"],
  ofPacked ["mahj", "mahajani"]
    ["DZNcBm"]
    ["HbaDHklCIDcjBNUsBm"],
  ofPacked ["maka", "makasar"]
    ["EEQqy"]
    [],
  ofPacked ["mand", "mandaic"]
    ["DDgBbca"]
    ["CJoaTrBbca"],
  ofPacked ["mani", "manichaean"]
    ["DXAmBmel"]
    ["CJoaDUQxBmel"],
  ofPacked ["marc", "marchen"]
    ["EDSqBfcvbn"]
    [],
  ofPacked ["medf", "medefaidrin"]
    ["FISeDm"]
    [],
  ofPacked ["mend", "mendekikakui"]
    ["HCUyHocp"]
    [],
  ofPacked ["merc", "meroiticcursive"]
    ["DWPkxetcBt"]
    [],
  ofPacked ["mero", "meroitichieroglyphs"]
    ["DWOeBf"]
    ["MGraDKHmBf"],
  ofPacked ["mlym", "malayalam"]
    ["EYambcbBybcbfepcz"]
    ["DNtbrbBJmmbcbBybcbfepczFVeaxaCASzc"],
  ofPacked ["modi"]
    ["EBHgCqlj"]
    ["CLSajBPOwCqlj"],
  ofPacked ["mong", "mongolian"]
    ["JCibcabtgDkhBqDSCbm"]
    ["JCizgDkhBqCWaaFZtbfdDJFwm"],
  ofPacked ["mroo", "mro"]
    ["FHEuBebjeb"]
    [],
  ofPacked ["mtei", "meeteimayek"]
    ["CMSmwHtBtcj"]
    [],
  ofPacked ["mult", "multani"]
    ["DZYugbabdbobk"]
    ["DYkjDWAagbabdbobk"],
  ofPacked ["mymr", "myanmar"]
    ["GBoGdCGAyBeDtBfBPAmt"]
    ["GBoGdCFUcaGvBeDtBfBPAmt"],
  ofPacked ["nagm", "nagmundari"]
    ["HBPoBp"]
    [],
  ofPacked ["nand", "nandinagari"]
    ["ECQyhcBtck"]
    ["DNtasbBImjGBhaiahaCASrfBQYshcBtck"],
  ofPacked ["narb", "oldnortharabian"]
    ["DWYaBf"]
    [],
  ofPacked ["nbat", "nabataean"]
    ["DWEiBeii"]
    [],
  ofPacked ["newa"]
    ["EANoDnbe"]
    ["DNtbHKcabbjagababaDPOsDnbe"],
  ofPacked ["nkoo", "nko"]
    ["CYiCgcc"]
    ["CHoaoadaQaCgccDOWsb"],
  ofPacked ["nshu", "nushu"]
    ["FJIfaYVmPf"]
    [],
  ofPacked ["ogam", "ogham"]
    ["INoBc"]
    [],
  ofPacked ["olck", "olchiki"]
    ["KSuBv"]
    [],
  ofPacked ["orkh", "oldturkic"]
    ["DXMuCu"]
    ["MGoaFGfaDFZzCu"],
  ofPacked ["orya", "oriya"]
    ["EEjcbhcbcvbgbbbecicbcchcebbecr"]
    ["DNtbrbPvcbhcbcvbgbbbecicbcchcebbecrGPeaxa"],
  ofPacked ["osge", "osage"]
    ["DUSuBjeBj"]
    ["BDpacagaCyaDTLvBjeBj"],
  ofPacked ["osma", "osmanya"]
    ["DUQyBdcj"]
    [],
  ofPacked ["ougr", "olduyghur"]
    ["DYUqz"]
    ["CJoaDUSvaBSfz"],
  ofPacked ["palm", "palmyrene"]
    ["DWDcBf"]
    [],
  ofPacked ["pauc", "paucinhau"]
    ["EDCaCe"]
    [],
  ofPacked ["perm", "oldpermic"]
    ["DUFgBq"]
    ["HbaWmafckaOdaDSMuBq"],
  ofPacked ["phag", "phagspa"]
    ["CLSqCd"]
    ["JCkbbaDCjaFZuaBTNxCd"],
  ofPacked ["phli", "inscriptionalpahlavi"]
    ["DXGqsfh"]
    [],
  ofPacked ["phlp", "psalterpahlavi"]
    ["DXHwrhdmg"]
    ["CJoaDUYhrhdmg"],
  ofPacked ["phnx", "phoenician"]
    ["DWJgBbda"]
    [],
  ofPacked ["plrd", "miao"]
    ["FIZoCweCehq"]
    [],
  ofPacked ["prti", "inscriptionalparthian"]
    ["DXFkvch"]
    [],
  ofPacked ["rjng", "rejang"]
    ["CMBwBjla"]
    [],
  ofPacked ["rohg", "hanifirohingya"]
    ["DXWqBnij"]
    ["CHoaoadaBgaFraDVHjBnij"],
  ofPacked ["runr", "runic"]
    ["IOuCwdk"]
    ["IOuDk"],
  ofPacked ["samr", "samaritan"]
    ["DAuBtco"]
    ["DAuBtcoOJqa"],
  ofPacked ["sarb", "oldsoutharabian"]
    ["DWWuBf"]
    [],
  ofPacked ["saur", "saurashtra"]
    ["CLVcCril"]
    [],
  ofPacked ["sgnw", "signwriting"]
    ["GWTkZbpebo"]
    [],
  ofPacked ["shaw", "shavian"]
    ["DUPcBv"]
    ["HbaDUIaBv"],
  ofPacked ["shrd", "sharada"]
    ["DZOyDr"]
    ["DNtaHKfabacbcajacaCATefcaBNWpDr"],
  ofPacked ["sidd", "siddham"]
    ["EBCiCbcBl"]
    [],
  ofPacked ["sind", "khudawadi"]
    ["EAAqCgfj"]
    ["DOmbCIDmjBOIgCgfj"],
  ofPacked ["sinh", "sinhala"]
    ["FCzcbrdxbibacgdaefbabhgjccDULgt"]
    ["DOmbBOlcbrdxbibacgdaefbabhgjccFRpaDOTqt"],
  ofPacked ["sogd", "sogdian"]
    ["DYSeBp"]
    ["CJoaDWIpBp"],
  ofPacked ["sogo", "oldsogdian"]
    ["DYQiBn"]
    [],
  ofPacked ["sora", "sorasompeng"]
    ["DZIeyhj"]
    [],
  ofPacked ["soyo", "soyombo"]
    ["ECXsDe"]
    [],
  ofPacked ["sund", "sundanese"]
    ["KKuClJwh"]
    [],
  ofPacked ["sylo", "sylotinagri"]
    ["CLQeBs"]
    ["DOmbEyjCHWiBs"],
  ofPacked ["syrc", "syriac"]
    ["CQynbChccKmk"]
    ["BDrbcbbaychbbbBCcaobcaBgakkBaaFnnbChccKmkIEfaba"],
  ofPacked ["tagb", "tagbanwa"]
    ["IWembcbb"]
    ["IUnbBpmbcbb"],
  ofPacked ["takr", "takri"]
    ["EBMeCfgj"]
    ["DOmbCIDmjBPTuCfgj"],
  ofPacked ["tale", "taile"]
    ["JPgBdce"]
    ["BDobfbdaEZzjDKwBdce"],
  ofPacked ["talu", "newtailue"]
    ["JRcBrezgkdb"]
    [],
  ofPacked ["taml", "tamil"]
    ["EJibbfdcbddbbabbdbdcdleedcbdcagaouEALhBxna"]
    ["DNtbrbUubbfdcbddbbabbdbdcdleedcbdcagaouGKdaCBBkaBOEfabaCdbETfBxna"],
  ofPacked ["tang", "tangut"]
    ["FJIeaBfJBziBDnTsi"]
    ["SEapTbaEQKmaBfJBziBDnTsi"],
  ofPacked ["tavt", "taiviet"]
    ["CMOuCoye"]
    [],
  ofPacked ["telu", "telugu"]
    ["EOembcbwbpcibcbdhbbccacdcjhi"]
    ["DNtbrbZqmbcbwbpcibcbdhbbccacdcjhiGEvbbabaxa"],
  ofPacked ["tfng", "tifinagh"]
    ["RCyCdhboa"]
    ["BDqababdzaPYaCdhboa"],
  ofPacked ["tglg", "tagalog"]
    ["ISmvja"]
    ["ISmvjavb"],
  ofPacked ["thaa", "thaana"]
    ["CVwBx"]
    ["CHoaobcaCmjKsBxDPGqaka"],
  ofPacked ["thai"]
    ["FHxCffBb"]
    ["BAyaBaaBraBtaEClCffBb"],
  ofPacked ["tibt", "tibetan"]
    ["FRsCtbBjeBmbBjbobgeb"]
    ["FRsCtbBjeBmbBjbobgebMEvd"],
  ofPacked ["tirh", "tirhuta"]
    ["EASmCtij"]
    ["DNtbrbHJjamapaCASzjBPAcCtij"],
  ofPacked ["tnsa", "tangsa"]
    ["FHGqDabj"]
    [],
  ofPacked ["toto"]
    ["HATkBe"]
    ["BAyaGZSlBe"],
  ofPacked ["ugar", "ugaritic"]
    ["DUHcBdba"]
    [],
  ofPacked ["vaii", "vai"]
    ["CKMqLn"]
    [],
  ofPacked ["vith", "vithkuqi"]
    ["DVAekbobgbbbkbobgbb"]
    [],
  ofPacked ["wara", "warangciti"]
    ["ECHcDema"]
    [],
  ofPacked ["wcho", "wancho"]
    ["HAVgCffa"]
    [],
  ofPacked ["xpeo", "oldpersian"]
    ["DUIiBjen"]
    [],
  ofPacked ["xsux", "cuneiform"]
    ["EFBsBJlDyEgbelHn"]
    [],
  ofPacked ["yezi", "yezidi"]
    ["DYLkBpbccb"]
    ["CHoaoadaCmjDWAgBpbccb"],
  ofPacked ["yiii", "yi"]
    ["CIPkBSudCc"]
    ["SErbfjchIpaBQBcBSudCcBIIce"],
  ofPacked ["zanb", "zanabazarsquare"]
    ["ECUqCt"]
    [],
  ofPacked ["zinh", "inherited", "qaai"]
    ["BDoEhKrbRkkBaaBCidGOxBeTtcbmbgeagadbHqClUebHmBgFTxdEdbCZUjpqnBLnaIsaGFaaCTCuBtcwUycrhcgB",
      "edBTLHiJf"]
    ["BEdacabodgcacpbbbrbebdCGmbGOxBeBDbCbbabeUebHmBfDFSqpqnBLnaCZQoBtcwUycrhcgBedBTLHiJf"],
  ofPacked ["zyyy", "common"]
    ["aCmBafBaBubobexaBfaRhBmfectEmajagabaYnagaoadaBgaGaaTwaEzbBVtaPpdLeaCGlcCtbHvbbaBVhanahdb",
      "fbccaBDtlcDibkdkborBgClBlbccfbBabqBpceZpwkvBJrJwYdcBfbEaTsDpPmubabyphedDnbdaDmbFrpBgBlja",
      "BwClBfDcBvaDkGlJToClBHSiBhDycGjjJkaGeaPfaobBEZqbIajwBibsbdFrabBfBafBakkaBtbCmgbgkeJyceBs",
      "diDcmBzBsIuBaCSHwdFVgJpgQtGaElCiJlkBmcCjdqibhBdeCiIftmtmDijyFfDgbCsbbcacbcdblbabgbCmbdch",
      "bgbBbbdbebadgbNbcLfcBxHThCpCyCiBBeBreDvmocobobBkkGrCezbbnBreihbofFyBLveqdmdEoeDqgleapleC",
      "dijgBniBdclebCkNbmncmdjfCdhockgihFqbDxBSUXbaBeDr"]
    ["aCmBafBaBublbbbexaBfaRhcbjbadabibabffectEwagabaYnaIhaTwaCAuaPpdGDblcBgbBebjbbbgbkdkborBg",
      "ClBlbccfbBabqBpceZpwkvBJrJwYdcBfbEaTswbxcjbdbabzQcadananavaUjxBfaBxomdGfjfDrBfaJToClBHSq",
      "zDycBLoaobBFHsjwuclbsbdFrabBfBafBafExgbgkePmmBzBsCYNbJpgQtGaElCiJlkBmcCjdqibhBdeCiIftmtm",
      "DiBbgFfDgbCsbbcacbcdblbabgbCmbdchbgbBbbdbebadgbNbcLfcBxHThCpCyCiBBeBreDvmocobobBkkGrCezb",
      "bnBreixfFyBLveqdmdEoeDqgleapleCdijgBniBdclebCkNbmncmdjfCdhockgihFqbDxBSUXbaBeDr"],
  ofPacked ["gara", "garay"]
    ["DXZcBldBcib"]
    ["CHoaoadaDVQuBldBcib"],
  ofPacked ["gukh", "gurungkhema"]
    ["FDRsCf"]
    ["DOnaFADeCf"],
  ofPacked ["krai", "kiratrai"]
    ["FIIiCf"]
    [],
  ofPacked ["onao", "olonal"]
    ["HBZkBqea"]
    ["DOmbGYKwBqea"],
  ofPacked ["sunu", "sunuwar"]
    ["EDLwBhoj"]
    ["BDobbajacaBcadaECGkBhoj"],
  ofPacked ["todr", "todhri"]
    ["DVDgBz"]
    ["BDpacacajabaCwaDTWbBz"],
  ofPacked ["tutg", "tulutigalari"]
    ["EAIqjbacabBlbjbacabdbjbbib"]
    ["EXajGBqabaCASxfHfaBOJejbacabBlbjbacabdbjbbib"]]

def find? (name : String) : Option Script := all.find? fun s => s.names.contains name

end Script

end Overseer.Text.Unicode
