import Overseer.Text.Ranges

/-!
The properties of Unicode 16.0 that a code point either has or has not.
-/

namespace Overseer.Text.Unicode

inductive Property where
  | alphabetic
  | asciiHexDigit
  | bidiControl
  | bidiMirrored
  | caseIgnorable
  | cased
  | changesWhenCasefolded
  | changesWhenCasemapped
  | changesWhenLowercased
  | changesWhenTitlecased
  | changesWhenUppercased
  | dash
  | defaultIgnorableCodePoint
  | deprecated
  | diacritic
  | emoji
  | emojiComponent
  | emojiModifier
  | emojiModifierBase
  | emojiPresentation
  | extendedPictographic
  | extender
  | graphemeBase
  | graphemeExtend
  | graphemeLink
  | hexDigit
  | hyphen
  | idCompatMathContinue
  | idCompatMathStart
  | idContinue
  | idStart
  | ideographic
  | idsBinaryOperator
  | idsTrinaryOperator
  | idsUnaryOperator
  | joinControl
  | logicalOrderException
  | lowercase
  | math
  | modifierCombiningMark
  | noncharacterCodePoint
  | otherAlphabetic
  | otherDefaultIgnorableCodePoint
  | otherGraphemeExtend
  | otherIdContinue
  | otherIdStart
  | otherLowercase
  | otherMath
  | otherUppercase
  | patternSyntax
  | patternWhiteSpace
  | prependedConcatenationMark
  | quotationMark
  | radical
  | regionalIndicator
  | sentenceTerminal
  | softDotted
  | terminalPunctuation
  | unifiedIdeograph
  | uppercase
  | variationSelector
  | whiteSpace
  | xidContinue
  | xidStart
  deriving DecidableEq, Repr

namespace Property

def all : List Property := [
  .alphabetic, .asciiHexDigit, .bidiControl, .bidiMirrored, .caseIgnorable, .cased,
  .changesWhenCasefolded, .changesWhenCasemapped, .changesWhenLowercased, .changesWhenTitlecased,
  .changesWhenUppercased, .dash, .defaultIgnorableCodePoint, .deprecated, .diacritic, .emoji,
  .emojiComponent, .emojiModifier, .emojiModifierBase, .emojiPresentation, .extendedPictographic,
  .extender, .graphemeBase, .graphemeExtend, .graphemeLink, .hexDigit, .hyphen,
  .idCompatMathContinue, .idCompatMathStart, .idContinue, .idStart, .ideographic,
  .idsBinaryOperator, .idsTrinaryOperator, .idsUnaryOperator, .joinControl,
  .logicalOrderException, .lowercase, .math, .modifierCombiningMark, .noncharacterCodePoint,
  .otherAlphabetic, .otherDefaultIgnorableCodePoint, .otherGraphemeExtend, .otherIdContinue,
  .otherIdStart, .otherLowercase, .otherMath, .otherUppercase, .patternSyntax, .patternWhiteSpace,
  .prependedConcatenationMark, .quotationMark, .radical, .regionalIndicator, .sentenceTerminal,
  .softDotted, .terminalPunctuation, .unifiedIdeograph, .uppercase, .variationSelector,
  .whiteSpace, .xidContinue, .xidStart]

def names : Property → List String
  | alphabetic => ["alphabetic", "alpha"]
  | asciiHexDigit => ["asciihexdigit", "ahex"]
  | bidiControl => ["bidicontrol", "bidic"]
  | bidiMirrored => ["bidimirrored", "bidim"]
  | caseIgnorable => ["caseignorable", "ci"]
  | cased => ["cased"]
  | changesWhenCasefolded => ["changeswhencasefolded", "cwcf"]
  | changesWhenCasemapped => ["changeswhencasemapped", "cwcm"]
  | changesWhenLowercased => ["changeswhenlowercased", "cwl"]
  | changesWhenTitlecased => ["changeswhentitlecased", "cwt"]
  | changesWhenUppercased => ["changeswhenuppercased", "cwu"]
  | dash => ["dash"]
  | defaultIgnorableCodePoint => ["defaultignorablecodepoint", "di"]
  | deprecated => ["deprecated", "dep"]
  | diacritic => ["diacritic", "dia"]
  | emoji => ["emoji"]
  | emojiComponent => ["emojicomponent", "ecomp"]
  | emojiModifier => ["emojimodifier", "emod"]
  | emojiModifierBase => ["emojimodifierbase", "ebase"]
  | emojiPresentation => ["emojipresentation", "epres"]
  | extendedPictographic => ["extendedpictographic", "extpict"]
  | extender => ["extender", "ext"]
  | graphemeBase => ["graphemebase", "grbase"]
  | graphemeExtend => ["graphemeextend", "grext"]
  | graphemeLink => ["graphemelink", "grlink"]
  | hexDigit => ["hexdigit", "hex"]
  | hyphen => ["hyphen"]
  | idCompatMathContinue => ["idcompatmathcontinue"]
  | idCompatMathStart => ["idcompatmathstart"]
  | idContinue => ["idcontinue", "idc"]
  | idStart => ["idstart", "ids"]
  | ideographic => ["ideographic", "ideo"]
  | idsBinaryOperator => ["idsbinaryoperator", "idsb"]
  | idsTrinaryOperator => ["idstrinaryoperator", "idst"]
  | idsUnaryOperator => ["idsunaryoperator", "idsu"]
  | joinControl => ["joincontrol", "joinc"]
  | logicalOrderException => ["logicalorderexception", "loe"]
  | lowercase => ["lowercase", "lower"]
  | math => ["math"]
  | modifierCombiningMark => ["modifiercombiningmark", "mcm"]
  | noncharacterCodePoint => ["noncharactercodepoint", "nchar"]
  | otherAlphabetic => ["otheralphabetic", "oalpha"]
  | otherDefaultIgnorableCodePoint => ["otherdefaultignorablecodepoint", "odi"]
  | otherGraphemeExtend => ["othergraphemeextend", "ogrext"]
  | otherIdContinue => ["otheridcontinue", "oidc"]
  | otherIdStart => ["otheridstart", "oids"]
  | otherLowercase => ["otherlowercase", "olower"]
  | otherMath => ["othermath", "omath"]
  | otherUppercase => ["otheruppercase", "oupper"]
  | patternSyntax => ["patternsyntax", "patsyn"]
  | patternWhiteSpace => ["patternwhitespace", "patws"]
  | prependedConcatenationMark => ["prependedconcatenationmark", "pcm"]
  | quotationMark => ["quotationmark", "qmark"]
  | radical => ["radical"]
  | regionalIndicator => ["regionalindicator", "ri"]
  | sentenceTerminal => ["sentenceterminal", "sterm"]
  | softDotted => ["softdotted", "sd"]
  | terminalPunctuation => ["terminalpunctuation", "term"]
  | unifiedIdeograph => ["unifiedideograph", "uideo"]
  | uppercase => ["uppercase", "upper"]
  | variationSelector => ["variationselector", "vs"]
  | whiteSpace => ["whitespace", "space", "wspace"]
  | xidContinue => ["xidcontinue", "xidc"]
  | xidStart => ["xidstart", "xids"]

def ranges : Property → Ranges
  | alphabetic => unpack [
      "CnzgzBvakaeafwbBebRpeloehabaDiaBdrbbcdbagabcbabtbDebFiiGjbBlcagBoBnnbabbbbbaiBaedBdkfCd",
      "bgoDxbheheckccaqBvnDwyBgjbeafxcstyhkfxbfiaiBpkldggCxbpbceonsbhcbcvbgbadddhcbcbbaiaebbem",
      "bkaecbfebcvbgbbbbbbeeebcbeahdbarflcbibcbvbgbbbedibcbbdapdvdecbhcbcvbgbbbedhcbcbjbebbena",
      "qbbfdcbddbbabbdbdcdleedcbcdagaBombcbwbpdhbcbcibbccacdBcdbhbcbwbjbedhbcbcibgbbdncmmbcbBo",
      "chbcbcbafdhewfbcbrdxbibacgifbabhsbnCffggaBzbbabebxbabsbccebagaodBgaClhbBjesepbBjCpCcbac",
      "eqClkdcBlbafacBqbMubdcgbabdcBobdcBgbdcgbabdcobCebdcCoBlpqDhcfdXvcqbzfCwdkhtlumtmmbcbbmB",
      "zcsoaeaCpDkhBqfCrkBebleixBdcelBrezCcBbeCkctByaxblcBxBzbobhBzBpcdkBrbkoCcwckBjckfBqccBpd",
      "bfbbdafHjtBhlKrcfcBlcfchbabababBecCabgbadcbgddcfemfcbgEmanaqmDxaeacjbadegabababdbkcdfee",
      "arBoBFhBzCRuIugddbmBlbafacCdhaqwjgbgbgbgbgbgbgbgbBfBvaSbcziheceeDhgcbDlbdfBqbDprBfBwpTs",
      "JTnCmBGUeCpBtcKidpkbuBufhdEiBnicDycCocbbabhvtbBgyBzmCpbaBsfdabckBgfBinBcdByblpaqpkebCcj",
      "nswdCqbabayccpcdlfcfcfjgbgbBqbngEsvQNrmweBwMNcObcEbBmgmeflbmbebabbbbbEdBhNysClcCbBolEme",
      "bFeBkzgzlDkdfcfcfccBjlbzbsbbbocnBiEsCrCaKhBcdBwBvBfnBdfBqfBdcBjehbeBqGbsBjeBjeBniBzmkbo",
      "bgbbbkbobgbbdBzmLyjvkhyfbBpbiCrfcabBrbbdacwkwjBeCnsbbkvkzCsCdgbCmdbbfhbcbBcBqBcdBcBjhbB",
      "bBbCbkvksnrEgCuCdBynBynBnBiBbdafwJqBpbbdbqcCdadBckaivBqrBuuBbwjCrBrekCejanyxByrdiBidajC",
      "lbdjbkabaBjrbBhcagdCkgbabdbobjhCexdbhcbcvbgbbbedhcbcbdagafgBcjbacabBlbjbacabdbbdabaBsCn",
      "bcbducBeCncbbaHcCbcgzfBiCkbadaChCbcaCtBacnvgHdCeDzClBfhcachbbbBdbbcbcdDphcBtcfbabbBbByc",
      "jrCtfasCuHrBgBfibBsbgbaBxBdcvbnCvgbbbBrdabbbcbacbyfbbbBkbbbdbaMpwjqbBodcEhaDbBJlDyEgrHn",
      "DXkDspBPfrfzFXqfWkKDdBuCPdVwhBerDarBdsBvqdBfufsQqBsIdClEyCweCehqCmbbamboJBziBVpBpjNFrdb",
      "gbbbLepaBdccaodiPfDKuEcfmdihjeaIWfDgbCsbbcacbcdblbabgbCmbdchbgbBbbdbebadgbNbcybybBebybB",
      "ebybBebybBebybhCSyBegfIfgbqcgbbbefCjBhaEiBskgqaMjBdsBrSqBbIuBdcaTbgbdbbbobHoChCpdadaBUi",
      "dbBabbbacabjbdbabagaeabababcbbbacabababababbbacdbgbdbdbabjbqfcbebqYezgzgzFMkCLFbBgGDtgI",
      "ncINpoLBkpXxDQwUvCFyHHyfGFf"]
  | asciiHexDigit => unpack ["BwjhfBaf"]
  | bidiControl => unpack ["CIeaJVlbBaeCdd"]
  | bidiMirrored => unpack [
      "BobsabaBcabaBdabaBtapaFMsdCUnbDQqbkbCcbobGvaHkddfdadbddbdbabaeifabrfdjbbabhbBfcdfajbcsf",
      "bjecbexcpidubhbBPtnCwacdbbbcfdfcdnPnvcfbniahfdaeebbceeabccbkfcbmsbdcabacabdfbgcyblbedbb",
      "cbeBqchbBnfabadefceadebaJwaTvddbbbobcjBrhQljchDACrffbGgbsabaBcabaBdababbbbDDPnaCfaCfaCf",
      "aCfa"]
  | caseIgnorable => unpack [
      "BnagalaBjabaCtaeabaeacbTjHjebeajbbaJrgHzafaBxBsbabbbbbaBsalfkkbaBjakuqaDxhbjbdBhabaBeBa",
      "DnkCgkeacayxBrcBsahbfiBpCfCdabaeheadgkbnapaCgaediaubBaacbCfaebebccdaBebdalbCfaeebbeaubw",
      "fbaCgacabdiahblbBeaCjamaByadaCdabcfcbdhblbBdaCgacagafbubBcbCfbediaubBdaCuahcbaDmacgliDu",
      "acijabgCvbBbababaCdnbebbfkbBjjaDydbfbbcbzbecqdnacbgapaDqaXkcBKkcBdbBebBebCmbbgiackdafaB",
      "teBzaCnbBiaEocebjagcIlbcaCgabgbabachgjcaBnaiBeBxdBwabebafaBoimbBgdcbbcCeabbdabcCghcbCmf",
      "DecbmbgeagadbByCknaBiDwRdabclcncncnbmeibkacaceBxebjbanaqmBzBgEJrbEjcEvapaDsBfBvaSbaBkdd",
      "efaDpfDpcBQBuaBWcfKkaDudbjbaBcdDcboBhDaaxcDzcdbiadaeazbfaFvbBarnaBmhzkBucBwacdcbravbCof",
      "cbcbmaiaBjalaBzabccbfbbaBbaobfbbaDwejcEracaeaBDZsaFrqWbpdampBiacaGnahagalaBjabaBvaBtbCp",
      "avcTtaIsaFteBNpfbBpbiWkcbbfdBoceaGjbWbdBmaBaebaMdbDbdCskBxdEtaCcoBpacbkcBxdcbcaeakaBycB",
      "kebhCkambCaikdcaDrccabbgacaGbadhvbCfbdaBlgdeCsfnababaobDhhccbaxaDgfbaebbbJedgbbbBbbDhhc",
      "abbEcabacfbaDxabacdbeJzibbJwbbaeaFodcbeaBgjBofcdiajfccBumbbPqgbfbaDevcgbbbbEsfdabbbgbaC",
      "ubdabaNjblbCaefabaxaHXdqgoQYyldcDSaeChgjdTocBobSoaClqCmbbbYGpdbgbbEUgbbdGYuBtcwUycjpcgB",
      "edFscCYdCceBxiaoaweboCAigbqcgbbbefCjBhaGenOeaCjdTneJubBCigEfhEBfeBSXXpaBeDrEyJf"]
  | cased => unpack [
      "CnzgzBvakaeafwbBebHmbdeHzcBihbBeeDsaBqdcbcdbagabcbabtbDebFiiGjbBljBoEFfBlbafacBqbdZwDhc",
      "fDFukfBqccCmHjCmKrcfcBlcfchbabababBecCabgbadcbgddcfemfcbgEmanaqmDxaeacjbadegabababdbfea",
      "cdfeearBfdbBFlBzCRuIugddbmBlbafaBTWcBtsBdFcDxddbCjcbbabhvebcBFpBqbngDbBEAigmeBNtzgzBTtD",
      "bDsBjeBjEmkbobgbbbkbobgbbRjaccbBpbiBUzBynByDpvkvEFiClBGIqClBMLkDgbCsbbcacbcdblbabgbCmbd",
      "chbgbBbbdbebadgbNbcybybBebybBebybBebybBebybhCSyjbtgfKbCjDGkCpDAazgzgz"]
  | changesWhenCasefolded => unpack [
      "CnzDmakwbhBgabababababababababababababababababababababababababababacababababababababbba",
      "babababababababababababababababababababababbbabababbbabbbccdbbbcdbbbbababbbacabbbcbabbd",
      "ahbbbbbbabababababababacababababababababacbbabcbabababababababababababababababababababa",
      "bababababababababahbbbcabdbabababaJmaBqabadaiagabcbabbbqbiwamcdbbababababababababababab",
      "abbcbbabbcByBwababababababababababababababababajabababababababababababababababababababa",
      "babababababababbbabababababacababababababababababababababababababababababababababababab",
      "ababababababababababababababababababacBlBwaEFgBlbafaBFefDFujgBqccMiabababababababababab",
      "abababababababababababababababababababababababababababababababababababababababababababa",
      "bababababababababababababababababababababafbcababababababababababababababababababababab",
      "abababababababababababababababababababababababababababajhifkhihiflabababaihqBvcccffccfl",
      "dmefccfLladbgaBtptaBFmzCSuBvBwabccabababdbacaicbabababababababababababababababababababa",
      "bababababababababababababababababababababababababababababaiabaeaBTYjabababababababababa",
      "bababababababababababababatabababababababababababababaFfababababababadababababababababa",
      "babababababababababababababababababababababakababbbabababaeabacabadabababababababababab",
      "ebebabababababababdbabbdafabababayaBIgDbBEAigmeBNtzBUzBnFgBjGakbobgbbCQcByGbvEGoBfBGJwB",
      "fBULkBh"]
  | changesWhenCasemapped => unpack [
      "CnzgzCgakwbBebClbDfbBbcncbbaeDobrgBabbbabbdbbdbecabbcahacabbdffakbGkaBqdcbdcbagabcbabtb",
      "BudBgbebFciGjbBlkBmEFgBlbafacBqccZwDhcfDFukfBqccHdadaqaEjFzcabEncfcBlcfchbabababBecCabg",
      "badcbgddcfemfcbgLladbgaBbarBfdbBFlBzCRuEibbbbhDxhddbmBlbafaBTWcBtsBbFencCjjodccebybBdcb",
      "egybBHcaBcDbBEAigmeBNtzgzBTtDbDsBjeBjEmkbobgbbbkbobgbbCOpBynByDpvkvEFiClBGIqClBUKeCp"]
  | changesWhenLowercased => unpack [
      "CnzDxwbgBhabababababababababababababababababababababababababababacabababababababacababa",
      "bababababababababababababababababababababbbabadbbabbbccdbbbcdbbbbababbbacabbbcbabbdahbb",
      "bbbbabababababababacababababababababacbbabcbabababababababababababababababababababababa",
      "bababababababahbbbcabdbabababaLdabadaiagabcbabbbqbiBjaiabababababababababababafacabbcBy",
      "Bwababababababababababababababababajabababababababababababababababababababababababababa",
      "babbbabababababacababababababababababababababababababababababababababababababababababab",
      "ababababababababababababacBlEHdBlbafaBBuDhDGlagBqccMiababababababababababababababababab",
      "abababababababababababababababababababababababababababababababababababababababababababa",
      "babababababababababababababajababababababababababababababababababababababababababababab",
      "abababababababababababababababababababajhifkhihiflabababaihyhihihieleldmeleLladbgaBtpta",
      "BFmzCSuBvBwabccabababdbacaicbababababababababababababababababababababababababababababab",
      "abababababababababababababababababababaiabaeaBTYjababababababababababababababababababab",
      "abababatabababababababababababababaFfababababababadabababababababababababababababababab",
      "ababababababababababababakababbbabababaeabacabadababababababababababebebabababababababd",
      "babbdafabababayaBHAhzBUzBnFgBjGakbobgbbCQcByGbvEGoBfBGJwBfBULkBh"]
  | changesWhenTitlecased => unpack [
      "DtzCgaBpxbhbabababababababababababababababababababababababababababacabababababababbbaba",
      "bababababababababababababababababababababacababccabacadafacadccacababacaeacadabacadabae",
      "abbbbbababababababababbbababababababababcbabadabababababababababababababababababababada",
      "babababababababaiacbbaeababababfbbbabbdbbdbecabbcahacabbdffakbGkaBrabadadcsaBbBibbdcbab",
      "ababababababababababebacacaCaBvbababababababababababababababababajababababababababababa",
      "babababababababababababababababacababababababbbabababababababababababababababababababab",
      "abababababababababababababababababababababababababababaBxBmFMefDFuibaJeadaqaEkababababa",
      "bababababababababababababababababababababababababababababababababababababababababababab",
      "ababababababababababababababababababababababababababgfababababababababababababababababa",
      "bababababababababababababababababababababababababababababababiifkhihifkhihinchihihiebbg",
      "adcbbidcbihkcbbNeaBhpeaBGlzCTqBvbadbbababagacakabababababababababababababababababababab",
      "abababababababababababababababababababababababababababababaiabaeamBlbafaBTWdabababababa",
      "bababababababababababababababababatabababababababababababababaFfababababababadababababa",
      "babababababababababababababababababababababababababakabacababababaeaeabbcababababababab",
      "ababalabababababababaeabacadafababaBaaBHcaBcDbBEAigmeBOzzBVhBnFgBjFzkbobgbbCRbByEvvEGoB",
      "fBGJwBfBULmBh"]
  | changesWhenUppercased => unpack [
      "DtzCgaBpxbhbabababababababababababababababababababababababababababacabababababababbbaba",
      "bababababababababababababababababababababacababccabacadafacadccacababacaeacadabacadabaf",
      "bbbbbbabababababababbbababababababababbbbbadabababababababababababababababababababadaba",
      "bababababababaiacbbaeababababfbbbabbdbbdbecabbcahacabbdffakbGkaBrabadadcsaBbBibbdcbabab",
      "abababababababababebacacaCaBvbababababababababababababababababajabababababababababababa",
      "bababababababababababababababacababababababbbababababababababababababababababababababab",
      "ababababababababababababababababababababababababababaBxBmEHcBqccBDgfDFuibaJeadaqaEkabab",
      "abababababababababababababababababababababababababababababababababababababababababababa",
      "bababababababababababababababababababababababababababababgfabababababababababababababab",
      "abababababababababababababababababababababababababababababababababiifkhihifkhihincCabbe",
      "abadcbbeaddcbihkcbbeaMzaBhpeaBGlzCTqBvbadbbababagacakababababababababababababababababab",
      "ababababababababababababababababababababababababababababababababaiabaeamBlbafaBTWdababa",
      "babababababababababababababababababababatabababababababababababababaFfababababababadaba",
      "bababababababababababababababababababababababababababababakabacababababaeaeabbcabababab",
      "abababababalabababababababaeabacadafababaBaaBHcaBcDbBEAigmeBOzzBVhBnFgBjFzkbobgbbCRbByE",
      "vvEGoBfBGJwBfBULmBh"]
  | dash => unpack [
      "BtaCAuaBzaFKjaBNpaDBdfCjaBnapaPaaEOiacaBfbeaBcaReataEhaCZWabBlakaGnaFLoaMga"]
  | defaultIgnorableCodePoint => unpack [
      "GraZxaBBoaEGwbCKhbDheDApeBaeBxpGKyaCZMppJfaGeaDbiCTLndHWxhBTKZlGBn"]
  | deprecated => unpack ["MraBYvaDKtabaDCjbDIjfBAvbBZRYka"]
  | diacritic => unpack [
      "DqabaCtagaeacbTjGcbhffrbeajbJteIbaCdBsbabbbbbaFbhebFebebdcCpBaDnkCgkBibEwhBpjqBbCjaqadd",
      "BcaCwaqaEgaqaEgaqaBvcCiaqahaEpaEgaqaEgaqaEfbqaEuaEhamfbaEdaneCxbBbababaebCocbbCkaEiabbB",
      "obeezgbakbBBdcBKmbBeaFskjaNjcLgauhcaBwockEaapaBmiCcbCgalbCobCmfDeyeagaccByCkBwBjflBlkRd",
      "abclcncncnbEXkcMfaTmfEbdDraBSMkambbaBcbDeboBhDycEfbmaBlaFvaBbrCfdBkaDramaBkaFtcCndBzaDw",
      "ejcEybBDZsaBDppKkabaBvaBtbCpaBDkaBTnfbBpbiYnceaGjbVzfBmaBaePjcCskBxdHkaBpaCubEqbCkaCyaj",
      "cEabGwbDcbqaygdeDlcbbnbDradaEtbJrbEwaEobElaKjbJybeaGaaDfasaDdaQfaJyabbDdaQjbxaHYaoQZpaD",
      "SaeChgVsbVaqDcbYGcdbgbbLThBtcwUycdfihcgBedFMwCjHmgOlaCjdBDmbBCigEfcbc"]
  | emoji => unpack [
      "BjagafjEhaeaLYramaIiawaDmfpbOdbmaGkazkecHraIxbkajaCgdbejacacbcaeacabbcadadbicfabafllbca",
      "bbbasacbsfbabbdbfacbeblbfbcafbbabbubffbdcaeacacfbacababagadagakbpacaeabaecbalbBwcjaoaoa",
      "OibRvctbBzaeaBVuamaXdabaGMRqaHuaGebmboacjCxzbbxauacivbGsBhcEhcbbccDeccbKcbCklfbxhbchmac",
      "dcaebnbcaibjafcmciccabaeagadagDhBwCrfhccejdabbdacjItleaKxBubjbHcEimdjfCdhockgi"]
  | emojiComponent => unpack ["BjagafjMBjaIfaDFTraDOIwzTneCEadBSVUqDr"]
  | emojiModifier => unpack ["HHIxe"]
  | emojiModifierBase => unpack [
      "OLhaIlaqdGSJvaCiccaccEnbckvsdaecbchabayaHtbeavaebGscdeDfaqcjalaWdacaihgajjccCeaCjbbbbar",
      "cbmIvcBqi"]
  | emojiPresentation => unpack [
      "NHqbHxddacaUbbvbBylBratanaibrbfbiafavahbbaeacahaebBcaBjabaecbaCjcyaoaBHbbBzaeaGPLeaHuaH",
      "iacjCxzbayauacebcvbGsBgmibCrbvmBqeemqdadCsbabHecCkndbxsaBabnaDiDgBwCrgadcccedlbhiItleaK",
      "xBubjbHcEimdjfCdhockgi"]
  | extendedPictographic => unpack [
      "GnaeaLYramaIiawaDmfpbOdbmaGkazkecHraIxbkajaCgdbejacacbcaeacabbcadadbicfabafllbcabbbasac",
      "bsfbabbdbfacbeblbfbcafbbabbubffbdcaeacacfbacababagadagakbpacaeabaecbalbBwcjaoaoaOibRvct",
      "bBzaeaBVuamaXdabaGMRqaBndDwlpbpaobBljEibmboacjtCdBbokauacibdjwgHfcEhcbbccDeccbdfJtbCklf",
      "bxhbchmacdcaebnbcaibjafcmciccabaeagadagDhBwCrfhcqdabfcmIkBlmdCehkfBohBebmdcnjBmmBubjbHc",
      "DkhoFpJwBNh"]
  | extender => unpack [
      "HbaUqbBHuaQzaYgaFhaDlaBCyaExaDNfaCeaXnaPiaCqaHKjaBreDzbDpcBQBuaCGsaBLaawaFhaEeavbBFZvaD",
      "BkbCFbaBbaeaBVbaLhaEmbTecBVjaBEOfbBTkbbaBQYabBUfaBGuc"]
  | graphemeBase => unpack [
      "BgDqBhmbWvEihcfegbabtbIphGjbBlcBxccBuabacacajBaefrjlabBtvpbDwiagbcaeBfcabBdBdDklaoBqjgd",
      "xeajadahobyfabkfBerBpCfCcbabdidbchjcBcbbbhcbcvbgbadddabbgbcbbanbbcexfabfebcvbgbbbbbbecy",
      "dbahjccbamabibcbvbgbbbeddiabbdapbelhaibbhcbcvbgbbbedacagbcbpbbcerlabfdcbddbbabbdbdcdlfa",
      "bbdcbcdavugcbhbcbwbpdaddtccacbejhjbkbcbwbjbedbcabbybbbejbcokbcbBocabbfcbcbbecbjezcbbrdx",
      "bibacgjbgghjccmBvbblhimBlbbabebxbabjbbjacebajjcdBgxcBabababnbBjsafaceBxhbfbmBlBseagacbc",
      "ycddpembbcfbobBnbafacOmbdcgbabdcBobdcBgbdcgbabdcobCebdcCofBcdzgDhcfcZsdDkhrnsdbjrombcpB",
      "zcahhbblidjgjgkfjgDkhecBhbafCrkBeedccebbfhadBpcelBrezgkdCecbdCdbajabbifnjgjgnDiBvkddhbB",
      "cjlcBfebgCdbaccbanBvibfodCjfBqcklanahdbfbccafHjCmKrcfcBlcfchbabababBecCabobncfbsccbibkf",
      "xhBwqbcBabmdBgClFjeZpwkvCRrcBfbNfdbfBsbafacCdhbpwjgbgbgbgbgbgbgbgBhDpBizbDkmIfBaCfgpbDh",
      "eDwfBqbDpbDhjBvbBRIqdCcjNjuBueakBfcDbcfiHxcbbabhvpbcbdbyceejgCdiCpklymbBliylamBdgBvbbeb",
      "cbbmbkegbybBogbcblcbhbacjcBfbBybadbcecabayqchlfcfcfjgbgbCheEmbbbddjgQNrmweBwMNcObcEbBmg",
      "mefabxbebabbbbbEuqRccCbhaBgpqjwBibsbdeebFeeGacBedfcfcfccdgbgnbclbzbsbbbocnBiEsfceBsdDjb",
      "mdaBvBsFbBcdBwqBaeBjjBdfBlkBdbBkenBqGbcjgBjeBjeBniBzllbobgbbbkbobgbbdBzmLyjvkhyfbBpbiCr",
      "fcabBrbbdacwbCtiiBwsbbfBgdBafaCmCdetcBupdbcbBckihihClBgBkgljCbdBccBafzhdmgDcCuCdBynByhB",
      "pmjgBlixibIaBebBpdacbqcChBnivliwredBmBbuwjabCbpgeBdbbcamBwebcbbdoyhjjBjfajriBibclBzjabh",
      "ebbpbtlrbBbdbefbbClgbabdbobkgBubcnjibbhcbcvbgbbbedababdcbcbdamgBcjbacabBlbabbpabbdabcbb",
      "BnCdibdabubabcBeBvbbgabbbacacdijGkBubbgdcacBaBkByibbacdljgmtBqbabbibgjgtBcBadabbeajwHdB",
      "ujacaDwDemhcachbbbxbebbgdbcjjCshcBpidbdBbakBngbehjagbdBtnacinCuhjHaBhojgibBloabfkBcdBfz",
      "ahacaCxgbbbBlvajjgfbbbBkebbabahjLyscdjobBjibdwDiapBxnBJmDyEgbelHnDXkDunBPfrfzFXqfWkKDdB",
      "dmcdjCOsVwhBebjeDcbjgBdhakBvhokjbgbufsQqCfHqDmDxCwfCdlmCmdBcJBziBVpBpjNFrdbgbbbLepaBdcc",
      "aodiPfDKuEcfmdihjcacaFVkJpgQtGaElCiJlkBmcChfcwbhBdeCivCndaEstmtmDijyFfDgbCsbbcacbcdblba",
      "bgbCmbdchbgbBbbdbebadgbNbcLfcVpCddByhbnbgBRwBegfKbCjFqBskgcjebMiBdsBrejfaRwBbejIgBdckea",
      "SmgbdbbbobHociBwCphaejebBEfCpCyCiHmdbBabbbacabjbdbabagaeabababcbbbacabababababbbacdbgbd",
      "bdbabjbqfcbebqCabKkBreDvmocobobBkkGrCeBcnBreihbofFyBLveqdmdEoeDqgleapleCdijgBniBdclebCk",
      "NbmncmdjfCdhockgihFqbDxBNqCLFbBgGDtgIncINpoLBkpXxDQwUvCFyHHyfGFf"]
  | graphemeExtend => unpack [
      "BDoEhKpgKdBsbabbbbbaCukBwuqaDxgcfcbbdBjaBeBaDnkCgijaydbibcbeBrcChiBqxbBfCdabaeheadgkbBd",
      "aCgabacdiajakbBaacbCfaebebccdaBebdalbCfaeebbeaubwfbaCgabbbdiahckbBeaChabamajaBoadaCdabc",
      "fcbdhblbBdaCgacbbadcbdhblbBcbCfbbacdiajakbBdaCuaeaccbaiaDdacgmhDuacilgCvbBbababaCdnbebb",
      "fkbBjjaDydbfbbcbzbecqdnacbgapaBBbcBKkdBccBdbBebCmbbgiackjaBtcbaEnbBiaEocebjagcIlbcaCgab",
      "gbabachgjcaBwBeBxdBwjecBmimbBgdcfCeabbdabeCehcbFwcbmbgeagadbHqClUeaHnBgEOccFlaDsBfVifEb",
      "bBSQedbjBgbDcbKmadaeazbfaFvbBarnaBmhzkbaBscBwacdcbcaBkaCpfcbcbmaiaBvaBzabccbfbbaBqbiaJe",
      "acaeaBDZsaBCjpqpOcbXhaIsaFteCMgcbbfdBoceaGjbWbdCneMfbDbdCskBxdEtaCcoBpacbkcBxdcbhaCjcBk",
      "ebhCkambCaibaidcaDrccdgacaGbadhvbCfbbabamajaogdeCpacfbacabcecbaobDhhccbaxaDdacfbacabbbb",
      "JbacdgbbbBbbDhhcabbEcabachDxabacdbeJzibbJlakdeaFodcbeaBgjBofcdiajfccBumbbPqgbfbaDevcgbb",
      "bbEsfdabbbgbaCubdabaNjblbCaefcxaHXtagoQYyldcDSaeChgBOiaCldDdalbBDAxbGYzBtcwUwedfihcgBed",
      "FscCYdCceBxiaoaweboCAigbqcgbbbeDwaGegOlaCjdTodJubBCigEfgBTCAfDrEyJf"]
  | graphemeLink => unpack [
      "DNpaExaExaExaExaExaExaExaEfbqaEuaEhaExaHtaGybCPlbBeaGbaZdaItaDxbCsbGQtaBUKkaBlaFvaFmaEe",
      "aLxaJmaBJSraCHiaBpaoaCfaErbFjaEmaGyaDuaEycEjaExaJsaExaEoaEmaKjaJzbGfaDfasaDdaQfaKabDdaQ",
      "jbYZca"]
  | hexDigit => unpack ["BwjhfBafDSLljhfBaf"]
  | hyphen => unpack ["BtaExaBVwaGZzaDBdbFIbaBClaCZUlaGnaDja"]
  | idCompatMathContinue => unpack ["GwbfaMAgadkboOhaeawaGJJeazaBfazaBfazaBfazaBfaza"]
  | idCompatMathStart => unpack ["MWwaeawaGJJeazaBfazaBfazaBfazaBfaza"]
  | idContinue => unpack [
      "BwjhzeabzBvakabacafwbBebRpeloehabarEmbbcdbagebabtbDebFibecGjbBlcagBoiBsbabbbbbaiBaedBdk",
      "fCveDxbhcjbscaqCgcDwoCbeacacBtsBbekfxbfiCwbEycjbsbhcbcvbgbaddcicbcdiaebbeclkabaccbfebcv",
      "bgbbbbbbcabeebccdahdbahplcbibcbvbgbbbecjbcbccapdcjjgbcbhcbcvbgbbbecicbcchcebbecjbaqbbfd",
      "cbddbbabbdbdcdleedcbdcagaojqmbcbwbpcibcbdhbbccacdcjqdbhbcbwbjbecibcbdhbgbbdcjbcmmbcbByb",
      "cbefdhecjkfbcbrdxbibacgdaefbabhgjcbnCffobjBnbbabebxbabwcebabgbjcdBgaxbgjlababaejbBjetbr",
      "bBjjaCfCvgCzcBlbafacBqbMubdcgbabdcBobdcBgbdcgbabdcobCebdcCoccjiopqDhcfdXvcqbzfCwdkhvjvl",
      "tmmbcbbmDfdaebcjBhcbkgDkhBqfCrkBeblelkBncelBrezgkBlBbeCkbBcckgjnainbpBxCydjrimElmCdijdB",
      "wckfBqccqcbBmfUncfcBlcfchbabababBecCabgbadcbgddcfemfcbgpbBxbtaBcanaqmBzmeadlraeacjbacfg",
      "abababpcdfeearBoDZbIugimBlbafacCdhapxjgbgbgbgbgbgbgbgbBfTxczobeceeDhcgbDqfBqbDprBfBwpTs",
      "JTnCmBGUeCpBtcKidBbuBvejbEkBlicDycCocbbabhvCbeatBzmCrkjgxdabBwcBjmBcdCmokgBebCcjncjgwdC",
      "uyccpcekfcfcfjgbgbBqbngEsbbcjgQNrmweBwMNcObcEbBmgmeflbmbebabbbbbEdBhNysClcCbBolepqpdbyc",
      "BgebFetjhzeabzkDldfcfcfccBjlbzbsbbbocnBiEsCrCaFgaFaBcdBwpaBfBfnBdfBqfBdcBjehbeBqGbcjgBj",
      "eBjeBniBzmkbobgbbbkbobgbbdBzmLyjvkhyfbBpbiCrfcabBrbbdacwkwjBeCnsbbkvkzCsCdgbCmdbbfhbcbB",
      "ccceaBgBcdBcBjhbBdzCbkvksnrEgCuCdBynBynBnijgBldebwJqBpbbdbqcCdBgkaiBgBfvBquBbwjCsBfpjCh",
      "hanyhjgCabjediBjcajCqedbmbaBjrbBkgdCkgbabdbobjhCgfjgdbhcbcvbgbbbebjcbcccagafgcgdeljbaca",
      "bBlbjbacabdbhnbBdCwfjedBeCrbaijGkCbcixfBiCmdaljBmCehjgtBcBacoejggHdCgDxCvvhcachbbbBdbbc",
      "imjCshcBtchbbBbCkiaiCvdasCuHrBgpjgibBsbipjyBdcvbnCvgbbbBrdabbbiijgfbbbBkbbbfhjLywjqbBod",
      "enkDhaDbBJlDyEgrHnDXkDspBPfqvkFXqfWkKDdCfCOsVwhBebjgDabjgBdcelCcjdmjjufsQqBsdjHqClEyCwe",
      "CehqCmbbblboJBziBVpBpjNFrdbgbbbLepaBdccaodiPfDKuEcfmdihjdbGErjTyBtcwUwedfihcgBedFscRbDg",
      "bCsbbcacbcdblbabgbCmbdchbgbBbbdbebadgbNbcybybBebybBebybBebybBebybhcBxTsCceBxiaoaweboBQm",
      "BegfIfgbqcgbbbefCjBhaEiBsdncjeaMjBerCfScBpIgBqSrgbdbbbobHolgBpCxejBTudbBabbbacabjbdbaba",
      "gaeabababcbbbacabababababbbacdbgbdbdbabjbqfcbebqFAajBNqCLFbBgGDtgIncINpoLBkpXxDQwUvCFyH",
      "HyfGFfBONHgJf"]
  | idStart => unpack [
      "CnzgzBvakaeafwbBebRpeloehabaEzebbcdbagabcbabtbDebFiiGjbBlcagBoCtBaedBtBqBjbbDubapbhbkcc",
      "aqabBdBdDklayBgjbeafveajadaxyhkfxbfrBpCgCbdasahjppehcbcvbgbadddaqanbbcobkaifebcvbgbbbbb",
      "bBfdbatcqibcbvbgbbbedasapbxalhcbcvbgbbbedaBebbcparabfdcbddbbabbdbdcdlwaCahbcbwbpdaBacca",
      "cbBeaehbcbwbjbedaBfbbbpbribcbBocaqafcicyffrdxbibacgCgBvbbmgCgbbabebxbabjbbjacebavdBgaCl",
      "hbBjBbeElBquaqfeddadbhcemmarBlbafacBqbMubdcgbabdcBobdcBgbdcgbabdcobCebdcCoBlpqDhcfdXvcq",
      "bzfCwdkhrnsorombcpBzBjaeaCpDkhBobafCrkBeBxBdcelBrezCcwjCaDeaDpBurhCcBdnbkBrBaBjBpckBjck",
      "fBqccBpdbfbbdafHjCmKrcfcBlcfchbabababBecCabgbadcbgddcfemfcbgEmanaqmDxaeacjbacfgabababpc",
      "dfeearBoDZbIugddbmBlbafacCdhaqwjgbgbgbgbgbgbgbgVecziheceeDheebDlbdfBqbDprBfBwpTsJTnCmBG",
      "UeCpBtcKidpkbuBuqBecDbBnicDycCocbbabhvpbcbdbwBdBzoBxCkfdabblBbkwzBchBuBcaqebjkebBoxcbhu",
      "wdadBxbadbcecabaycckhcmfcfcfjgbgbBqbngEkBdQNrmweBwMNcObcEbBmgmefabjbmbebabbbbbEdBhNysCl",
      "cCbBolEmebFeBkzgzlDkdfcfcfccBjlbzbsbbbocnBiEsCrCaKhBcdBwBvBfnBdfBlkBdcBjehbeBqGbsBjeBje",
      "BniBzmkbobgbbbkbobgbbdBzmLyjvkhyfbBpbiCrfcabBrbbdacwkwjBeCnsbbkvkzCsCdgbCmapdbcbBcBqBcd",
      "BcBjhbBbBbCbkvksnrEgCuCdBynBynBjBmBbjwJqBpgbqcChBckaivBqrBuuBbwmCaCfbcanBsBgyBaBjBdacai",
      "BidamBvodvabaBjrbytbClgbabdbobjhBuBmhcbcvbgbbbedasameBejbacabBlbazabaBsCasducBeBvubbaHc",
      "BuBpdBkBvuaChBqnaCtBaBlgHdBrEmClBfhcachbbbxpabaDqhcBmqabaBcakBnhavalBttasCuHrBgBfibBkra",
      "BxBdEigbbbBlvazfbbbBfoaMpspabmbBhEuaDbBJlDyEgrHnDXkDspBPfrfzFXqfWkKDdBdCPuVwhBerDarBdsB",
      "vqdBfufsQqBsIdClEyCwfaComCmbbaBcJBziBVpBpjNFrdbgbbbLepaBdccaodiPfDKuEcfmdihjIWkDgbCsbbc",
      "acbcdblbabgbCmbdchbgbBbbdbebadgbNbcybybBebybBebybBebybBebybhCSyBegfKbCjFqBskgqaMjBdsBrS",
      "qBbIuBdcaTbgbdbbbobHoChCphaBUidbBabbbacabjbdbabagaeabababcbbbacabababababbbacdbgbdbdbab",
      "jbqfcbebqGOaCLFbBgGDtgIncINpoLBkpXxDQwUvCFyHHyfGFf"]
  | ideographic => unpack [
      "SEwbziocBLdJTnCmBFBjBHSiObcEbBSIkaBbJBziBVpBpjNUlPfBDEiCLFbBgGDtgIncINpoLBkpXxDQwUvCFyH",
      "HyfGFf"]
  | idsBinaryOperator => unpack ["SEabcjTda"]
  | idsTrinaryOperator => unpack ["SEcb"]
  | idsUnaryOperator => unpack ["SEob"]
  | joinControl => unpack ["MDob"]
  | logicalOrderException => unpack ["FKieEteEDsccaCCXmbcabb"]
  | lowercase => unpack [
      "DtzBvakaeaBkxbhbabababababababababababababababababababababababababababbbabababababababb",
      "bababababababababababababababababababababababacababccabacadbeacadccacababacabbbacadabac",
      "bccgacacababababababababbbababababababababbcabadabababababababababababababababababababa",
      "babababababababababgcacbbaeababababCqcBihbBeeDsaBrabadacdsaBbBibbdcbabababababababababa",
      "babebacacbBzBvbababababababababababababababababajababababababababababababababababababab",
      "abababababababacababababababbbababababababababababababababababababababababababababababa",
      "bababababababababababababababababababaBwBoEHbBqbdBDgfDFuibaEnHjCnababababababababababab",
      "abababababababababababababababababababababababababababababababababababababababababababa",
      "babababababababababababababababababababibababababababababababababababababababababababab",
      "abababababababababababababababababababababababababiifkhihifkhihinchihihiebbgadcbbidcbih",
      "kcbbEranaqmEfadbdaBbaeaeacbideaBhpeaBGlzCTqBvbadbbababaeabbbhdababababababababababababa",
      "bababababababababababababababababababababababababababababababababababababbhabaeamBlbafa",
      "BTWdababababababababababababababababababababababatabababababababababababababcFdabababab",
      "ababcbababababababababababababababababababababababababababababababjbabacababababaeabaca",
      "bcbabababababababababafafabababababababaeabacadabababababawcbabcBFpBqbngDbBEAigmeBOzzBV",
      "hBnFgBjFzkbobgbbRjaccbBpbiBXlByEvvEGoBfBGJwBfBMMkzBagbrBazBadbabgbkBazBazBazBazBazBazBa",
      "zBazBaBbBcybfBaybfBaybfBaybfBaybfbaCSyjbtgfKbCjDHsBh"]
  | math => unpack [
      "BraqcBfaBdabaBtaeaBlaBfaBCaccaBabccUhcJWnaBbcladanaodveleCnmeadbeesaeacjbacfgadbcbbcbfd",
      "nbaCqxbfbbebeBfbagboKhidubDmaBeBabayalgRdbmjefebcbdeoabacflhfbCfabaBddjcMyClJwTrBwucfDA",
      "SqaBFrfbaGgaqcBdabaBdabaFbagdFEfbCXDwDgbCsbbcacbcdblbabgbCmbdchbgbBbbdbebadgbNbcLfcBxII",
      "qdbBabbbacabjbdbabagaeabababcbbbacabababababbbacdbgbdbdbabjbqfcbebqCab"]
  | modifierCombiningMark => unpack ["CKibcaFbagadbSnbbcdaBfa"]
  | noncharacterCodePoint => unpack [
      "DSDcBfUgbDSYobDSYobDSYobDSYobDSYobDSYobDSYobDSYobDSYobDSYobDSYobDSYobDSYobDSYobDSYobDSY",
      "ob"]
  | otherAlphabetic => unpack [
      "BHjmWenbabbbbbaCukBwmbgqaDxgedcbeaBjaBepDykDxbdibcbdEcaCildggtCcbcobbfckbBdcCggcbcbkakb",
      "BdcCgeebcbeaBebdalcCghbcbbvbwcecCggcbcbjbkbBeaChedcbckaBoeCfgbcbciblbBdcCggbcbciblbpamd",
      "CggbcbckakbBdcCxfbabhsbCjacgsaDvacfbbqaGhsjkbBjEglbacdxdecbccgddnlbakdCLobBebBebBebCosH",
      "gbBiaEoleiIoeCfjctCwblcBxeBwoCicBeicbCfkBysPwBhCOnBzDKgBfBTQahBibNqaiaxeDkbBypbaCfaBmeB",
      "clBtdBwlBlaCpnmaibBtcByabccbfaBsefaJdhBDZvaDEdeCMgcbbfdBEidCnaMjbDbaJzcCbnBtblcBtijaCjc",
      "BklsbCfcBwmobDoicagacaGbjxdCggcbcbkakbDgibacabdbbDzmbcEcrJdgcgBdbDeobaEckDznJxmJnfbbcbd",
      "abaFmgcfeaBcjBqebdskBunPrhbgDfvbnEsfdabbbcbadaCoebbbdNkdjbbaBwgdcYYnqFJcabCchdDpbBDAyaN",
      "KjgbqcgbbbeDwaDHvaCZwzgzgz"]
  | otherDefaultIgnorableCodePoint => unpack ["BGpaFIlbCKhbDHnaGLiaDACpaDbiBWMIhabBdDsExJgFIl"]
  | otherGraphemeExtend => unpack [
      "DRyayaNuayaDyayaIyabaebbbjbDzayaEpapaDMraBeaBNkafabafbDxaCtbBOiaGCvbBTWtaEeaBGNlbGWmaEm",
      "aKeaoajaDsajacabcfaIqamaJhaKcaYjamaCHfaBEOkbBKXnbgfBTLAzDr"]
  | otherIdContinue => unpack ["HbaBBraGAjiCLcaCIzbGKraDAEja"]
  | otherIdStart => unpack ["JHlbDGjavaFVwb"]
  | otherLowercase => unpack [
      "GoapaThihbBeeDsaCaaFCzaEPzCknaBiBkBAnanaqmIdpBGqzCWobBUGkbIcaEzcdbBHidjaBIWsaccbBpbiDDZ",
      "hCj"]
  | otherMath => unpack [
      "DqaBHxccaBabcbKQyaBbclaBgdybobCnmeadbeesaeacjbadegadbcbbcbfddfeCxecdbbbbbabecbebercbbab",
      "gbagbLedGmbbayaraRdbmifefbcbdeoabacfybCfabaBddjbNebBfjPnvCldBgbDCLfabaeaIdabaDCOvDgbCsb",
      "bcacbcdblbabgbCmbdchbgbBbbdbebadgbNbcybybBebybBebybBebybBebybhcBxIIqdbBabbbacabjbdbabag",
      "aeabababcbbbacabababababbbacdbgbdbdbabjbqfcbebq"]
  | otherUppercase => unpack ["MQqpBGgzGSIyzgzgz"]
  | patternSyntax => unpack [
      "BhokgBadbaBadBigbabbbabbeaeadaxaBfaLUexiocsbjLtBBrGeYfBeBRnTsExOvceypaCZQzbKbb"]
  | patternWhiteSpace => unpack ["jesaDwaLYmbyb"]
  | prependedConcatenationMark => unpack ["CHcfIhaBxaOubDcaDVXyapa"]
  | quotationMark => unpack ["BiaeaFbapaLWuhzbFIdaRpdncDABpdHhaeaDmb"]
  | radical => unpack ["RPwzbDkmIf"]
  | regionalIndicator => unpack ["HGOkz"]
  | sentenceTerminal => unpack [
      "BhamaqaCAbaFrcGyaBrcJmaCjabadbLhbCPwbBEkaebBDtaHqbGbbBtafaMcbNqdGgbkbcbBdcHfbCnbBJwaxbj",
      "cEUxcLuanawbQnaBSHwaKkbItadaOsbDibDraFwbFrcFobJpaBFCwacbChadbGnamaqaCnaEDwbBXdeBsdHhbEn",
      "dExcEzbgaqbDkbbbEeaLmbEnbOjbfoEbbJpcTxabaJrbDjbQebBAqbCwbBCMbbFdaCnblaVhbLkaBDOgaLIma"]
  | softDotted => unpack [
      "EbbHoaKvaBeaCaauaMiaDuabaJMnaBzanadaFcaGbaQfaIgbEGgaGELhbBybBybBybBybBybBybBybBybBybByb",
      "BybBybDFyaLtbBaa"]
  | terminalPunctuation => unpack [
      "BhakabalbdaBFyaiaTtaCfaCuaoabcGyaBrkbaJbbCcfbhBfaKbbBWubGqaefLzbBEjhBDtaEucCtbGbcdaBndc",
      "bMcbNqdGgbkbbcBdcHfeCkbBJwaxbjcEUxcLuanaeakabbdbQmbBSHvbKjcIteOsbDibDraFvcFrcExaqbJpaBF",
      "CwacbCfcbdGnakabalbdaCnacaBPqaBwaBSoaHraLybFwfCqfDldBKqeBsdHhgEidExcEzbgaqbDkeEeaLmbEnc",
      "mbNuddoEbbJpcTxabaJrbDjbebPycBtaYvbCwbBYxeBAMzbFdaCnckaVhbLjbBDOgaLIld"]
  | unifiedIdeograph => unpack [
      "TSaJTnCmBFBjBICsbbabbkababbccDVEcCLFbBgGDtgIncINpoLBkpXxGRqHHyfGFf"]
  | uppercase => unpack [
      "CnzDxwbgBhabababababababababababababababababababababababababababacabababababababacababa",
      "bababababababababababababababababababababbbabadbbabbbccdbbbcdbbbbababbbacabbbcbabbdahac",
      "acacabababababababacababababababababacacabcbabababababababababababababababababababababa",
      "bababababababahbbbcabdbabababaLdabadaiagabcbabbbqbiBjaccdabababababababababababafacabbc",
      "ByBwababababababababababababababababajababababababababababababababababababababababababa",
      "bababbbabababababacabababababababababababababababababababababababababababababababababab",
      "abababababababababababababacBlEHdBlbafaBBuDhDGlagBqccMiabababababababababababababababab",
      "abababababababababababababababababababababababababababababababababababababababababababa",
      "bababababababababababababababajabababababababababababababababababababababababababababab",
      "ababababababababababababababababababababajhifkhihiflabababaihCudmdmdmeldKcaeadccccadega",
      "bababdcdkbfaBaptaBFmzCSuBvBwabccabababdbacaicbababababababababababababababababababababa",
      "babababababababababababababababababababababababababababaiabaeaBTYjababababababababababa",
      "babababababababababababatabababababababababababababaFfababababababadabababababababababa",
      "bababababababababababababababababababababakababbbabababaeabacabadababababababababababeb",
      "ebabababababababdbabbdafabababayaBHAhzBUzBnFgBjGakbobgbbCQcByGbvEGoBfBGJwBfBMMqzBazBazB",
      "aabbcacbcdbhBazBabbdchbgBbbbdbebadgBbzBazBazBazBazBazBeyBhyBhyBhyBhyBhaGNlBhDBizgzgz"]
  | variationSelector => unpack ["JCtcbaDJCapBWNKyJf"]
  | whiteSpace => unpack ["jesaDwaBaaIHjaDPnkBdbfaBvaFXwa"]
  | xidContinue => unpack [
      "BwjhzeabzBvakabacafwbBebRpeloehabarEmbbdcbagebabtbDebFibecGjbBlcagBoiBsbabbbbbaiBaedBdk",
      "fCveDxbhcjbscaqCgcDwoCbeacacBtsBbekfxbfiCwbEycjbsbhcbcvbgbaddcicbcdiaebbeclkabaccbfebcv",
      "bgbbbbbbcabeebccdahdbahplcbibcbvbgbbbecjbcbccapdcjjgbcbhcbcvbgbbbecicbcchcebbecjbaqbbfd",
      "cbddbbabbdbdcdleedcbdcagaojqmbcbwbpcibcbdhbbccacdcjqdbhbcbwbjbecibcbdhbgbbdcjbcmmbcbByb",
      "cbefdhecjkfbcbrdxbibacgdaefbabhgjcbnCffobjBnbbabebxbabwcebabgbjcdBgaxbgjlababaejbBjetbr",
      "bBjjaCfCvgCzcBlbafacBqbMubdcgbabdcBobdcBgbdcgbabdcobCebdcCoccjiopqDhcfdXvcqbzfCwdkhvjvl",
      "tmmbcbbmDfdaebcjBhcbkgDkhBqfCrkBeblelkBncelBrezgkBlBbeCkbBcckgjnainbpBxCydjrimElmCdijdB",
      "wckfBqccqcbBmfUncfcBlcfchbabababBecCabgbadcbgddcfemfcbgpbBxbtaBcanaqmBzmeadlraeacjbacfg",
      "abababpcdfeearBoDZbIugimBlbafacCdhapxjgbgbgbgbgbgbgbgbBfTxczobeceeDhcbccbDqfBqbDprBfBwp",
      "TsJTnCmBGUeCpBtcKidBbuBvejbEkBlicDycCocbbabhvCbeatBzmCrkjgxdabBwcBjmBcdCmokgBebCcjncjgw",
      "dCuyccpcekfcfcfjgbgbBqbngEsbbcjgQNrmweBwMNcObcEbBmgmeflbmbebabbbbbEdBhFigIjsClcCbBojgpq",
      "pdbycBhabadababababEvtjhzeabzkDldfcfcfccBjlbzbsbbbocnBiEsCrCaFgaFaBcdBwpaBfBfnBdfBqfBdc",
      "BjehbeBqGbcjgBjeBjeBniBzmkbobgbbbkbobgbbdBzmLyjvkhyfbBpbiCrfcabBrbbdacwkwjBeCnsbbkvkzCs",
      "CdgbCmdbbfhbcbBccceaBgBcdBcBjhbBdzCbkvksnrEgCuCdBynBynBnijgBldebwJqBpbbdbqcCdBgkaiBgBfv",
      "BquBbwjCsBfpjChhanyhjgCabjediBjcajCqedbmbaBjrbBkgdCkgbabdbobjhCgfjgdbhcbcvbgbbbebjcbccc",
      "agafgcgdeljbacabBlbjbacabdbhnbBdCwfjedBeCrbaijGkCbcixfBiCmdaljBmCehjgtBcBacoejggHdCgDxC",
      "vvhcachbbbBdbbcimjCshcBtchbbBbCkiaiCvdasCuHrBgpjgibBsbipjyBdcvbnCvgbbbBrdabbbiijgfbbbBk",
      "bbbfhjLywjqbBodenkDhaDbBJlDyEgrHnDXkDspBPfqvkFXqfWkKDdCfCOsVwhBebjgDabjgBdcelCcjdmjjufs",
      "QqBsdjHqClEyCweCehqCmbbblboJBziBVpBpjNFrdbgbbbLepaBdccaodiPfDKuEcfmdihjdbGErjTyBtcwUwed",
      "fihcgBedFscRbDgbCsbbcacbcdblbabgbCmbdchbgbBbbdbebadgbNbcybybBebybBebybBebybBebybhcBxTsC",
      "ceBxiaoaweboBQmBegfIfgbqcgbbbefCjBhaEiBsdncjeaMjBerCfScBpIgBqSrgbdbbbobHolgBpCxejBTudbB",
      "abbbacabjbdbabagaeabababcbbbacabababababbbacdbgbdbdbabjbqfcbebqFAajBNqCLFbBgGDtgIncINpo",
      "LBkpXxDQwUvCFyHHyfGFfBONHgJf"]
  | xidStart => unpack [
      "CnzgzBvakaeafwbBebRpeloehabaEzebbdcbagabcbabtbDebFiiGjbBlcagBoCtBaedBtBqBjbbDubapbhbkcc",
      "aqabBdBdDklayBgjbeafveajadaxyhkfxbfrBpCgCbdasahjppehcbcvbgbadddaqanbbcobkaifebcvbgbbbbb",
      "bBfdbatcqibcbvbgbbbedasapbxalhcbcvbgbbbedaBebbcparabfdcbddbbabbdbdcdlwaCahbcbwbpdaBacca",
      "cbBeaehbcbwbjbedaBfbbbpbribcbBocaqafcicyffrdxbibacgCgBvbangCgbbabebxbabjbakacebavdBgaCl",
      "hbBjBbeElBquaqfeddadbhcemmarBlbafacBqbMubdcgbabdcBobdcBgbdcgbabdcobCebdcCoBlpqDhcfdXvcq",
      "bzfCwdkhrnsorombcpBzBjaeaCpDkhBobafCrkBeBxBdcelBrezCcwjCaDeaDpBurhCcBdnbkBrBaBjBpckBjck",
      "fBqccBpdbfbbdafHjCmKrcfcBlcfchbabababBecCabgbadcbgddcfemfcbgEmanaqmDxaeacjbacfgabababpc",
      "dfeearBoDZbIugddbmBlbafacCdhaqwjgbgbgbgbgbgbgbgVecziheceeDhgcbDlbdfBqbDprBfBwpTsJTnCmBG",
      "UeCpBtcKidpkbuBuqBecDbBnicDycCocbbabhvpbcbdbwBdBzoBxCkfdabblBbkwzBchBuBcaqebjkebBoxcbhu",
      "wdadBxbadbcecabaycckhcmfcfcfjgbgbBqbngEkBdQNrmweBwMNcObcEbBmgmefabjbmbebabbbbbEdBhFigIj",
      "sClcCbBojEpabadababababEvBkzgzlCdcBedfcfcfccBjlbzbsbbbocnBiEsCrCaKhBcdBwBvBfnBdfBlkBdcB",
      "jehbeBqGbsBjeBjeBniBzmkbobgbbbkbobgbbdBzmLyjvkhyfbBpbiCrfcabBrbbdacwkwjBeCnsbbkvkzCsCdg",
      "bCmapdbcbBcBqBcdBcBjhbBbBbCbkvksnrEgCuCdBynBynBjBmBbjwJqBpgbqcChBckaivBqrBuuBbwmCaCfbca",
      "nBsBgyBaBjBdacaiBidamBvodvabaBjrbytbClgbabdbobjhBuBmhcbcvbgbbbedasameBejbacabBlbazabaBs",
      "CasducBeBvubbaHcBuBpdBkBvuaChBqnaCtBaBlgHdBrEmClBfhcachbbbxpabaDqhcBmqabaBcakBnhavalBtt",
      "asCuHrBgBfibBkraBxBdEigbbbBlvazfbbbBfoaMpspabmbBhEuaDbBJlDyEgrHnDXkDspBPfrfzFXqfWkKDdBd",
      "CPuVwhBerDarBdsBvqdBfufsQqBsIdClEyCwfaComCmbbaBcJBziBVpBpjNFrdbgbbbLepaBdccaodiPfDKuEcf",
      "mdihjIWkDgbCsbbcacbcdblbabgbCmbdchbgbBbbdbebadgbNbcybybBebybBebybBebybBebybhCSyBegfKbCj",
      "FqBskgqaMjBdsBrSqBbIuBdcaTbgbdbbbobHoChCphaBUidbBabbbacabjbdbabagaeabababcbbbacabababab",
      "abbbacdbgbdbdbabjbqfcbebqGOaCLFbBgGDtgIncINpoLBkpXxDQwUvCFyHHyfGFf"]

def find? (name : String) : Option Property := all.find? fun p => p.names.contains name

end Property

end Overseer.Text.Unicode
