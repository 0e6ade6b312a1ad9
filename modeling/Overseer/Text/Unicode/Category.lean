import Overseer.Text.Ranges

/-!
The general categories of Unicode 16.0: every code point has exactly one of them.
-/

namespace Overseer.Text.Unicode

inductive Category where
  | uppercaseLetter
  | lowercaseLetter
  | titlecaseLetter
  | modifierLetter
  | otherLetter
  | nonspacingMark
  | spacingMark
  | enclosingMark
  | decimalNumber
  | letterNumber
  | otherNumber
  | connectorPunctuation
  | dashPunctuation
  | openPunctuation
  | closePunctuation
  | initialPunctuation
  | finalPunctuation
  | otherPunctuation
  | mathSymbol
  | currencySymbol
  | modifierSymbol
  | otherSymbol
  | spaceSeparator
  | lineSeparator
  | paragraphSeparator
  | control
  | format
  | surrogate
  | privateUse
  | unassigned
  deriving DecidableEq, Repr

namespace Category

def all : List Category := [
  .uppercaseLetter, .lowercaseLetter, .titlecaseLetter, .modifierLetter, .otherLetter,
  .nonspacingMark, .spacingMark, .enclosingMark, .decimalNumber, .letterNumber, .otherNumber,
  .connectorPunctuation, .dashPunctuation, .openPunctuation, .closePunctuation,
  .initialPunctuation, .finalPunctuation, .otherPunctuation, .mathSymbol, .currencySymbol,
  .modifierSymbol, .otherSymbol, .spaceSeparator, .lineSeparator, .paragraphSeparator, .control,
  .format, .surrogate, .privateUse, .unassigned]

def names : Category → List String
  | uppercaseLetter => ["lu", "uppercaseletter"]
  | lowercaseLetter => ["ll", "lowercaseletter"]
  | titlecaseLetter => ["lt", "titlecaseletter"]
  | modifierLetter => ["lm", "modifierletter"]
  | otherLetter => ["lo", "otherletter"]
  | nonspacingMark => ["mn", "nonspacingmark"]
  | spacingMark => ["mc", "spacingmark"]
  | enclosingMark => ["me", "enclosingmark"]
  | decimalNumber => ["nd", "decimalnumber", "digit"]
  | letterNumber => ["nl", "letternumber"]
  | otherNumber => ["no", "othernumber"]
  | connectorPunctuation => ["pc", "connectorpunctuation"]
  | dashPunctuation => ["pd", "dashpunctuation"]
  | openPunctuation => ["ps", "openpunctuation"]
  | closePunctuation => ["pe", "closepunctuation"]
  | initialPunctuation => ["pi", "initialpunctuation"]
  | finalPunctuation => ["pf", "finalpunctuation"]
  | otherPunctuation => ["po", "otherpunctuation"]
  | mathSymbol => ["sm", "mathsymbol"]
  | currencySymbol => ["sc", "currencysymbol"]
  | modifierSymbol => ["sk", "modifiersymbol"]
  | otherSymbol => ["so", "othersymbol"]
  | spaceSeparator => ["zs", "spaceseparator"]
  | lineSeparator => ["zl", "lineseparator"]
  | paragraphSeparator => ["zp", "paragraphseparator"]
  | control => ["cc", "control", "cntrl"]
  | format => ["cf", "format"]
  | surrogate => ["cs", "surrogate"]
  | privateUse => ["co", "privateuse"]
  | unassigned => ["cn", "unassigned"]

def ranges : Category → Ranges
  | uppercaseLetter => unpack [
      "CnzDxwbgBhabababababababababababababababababababababababababababacabababababababacababa",
      "bababababababababababababababababababababbbabadbbabbbccdbbbcdbbbbababbbacabbbcbabbdahac",
      "acacabababababababacababababababababacacabcbabababababababababababababababababababababa",
      "bababababababahbbbcabdbabababaLdabadaiagabcbabbbqbiBjaccdabababababababababababafacabbc",
      "ByBwababababababababababababababababajababababababababababababababababababababababababa",
      "bababbbabababababacabababababababababababababababababababababababababababababababababab",
      "abababababababababababababacBlEHdBlbafaBBuDhDGlagBqccMiabababababababababababababababab",
      "abababababababababababababababababababababababababababababababababababababababababababa",
      "bababababababababababababababajabababababababababababababababababababababababababababab",
      "ababababababababababababababababababababajhifkhihiflabababaihCudmdmdmeldKcaeadccccadega",
      "bababdcdkbfaCjaDZgBvBwabccabababdbacaicbabababababababababababababababababababababababa",
      "bababababababababababababababababababababababababaiabaeaBTYjabababababababababababababa",
      "bababababababababatabababababababababababababaFfababababababadababababababababababababa",
      "babababababababababababababababababakababbbabababaeabacabadababababababababababebebabab",
      "abababababdbabbdafabababayaBHAhzBUzBnFgBjGakbobgbbCQcByGbvEGoBfBGJwBfBMMqzBazBazBaabbca",
      "cbcdbhBazBabbdchbgBbbbdbebadgBbzBazBazBazBazBazBeyBhyBhyBhyBhyBhaGNlBh"]
  | lowercaseLetter => unpack [
      "DtzCgaBpxbhbabababababababababababababababababababababababababababbbabababababababbbaba",
      "bababababababababababababababababababababacababccabacadbeacadccacababacabbbacadabacbccg",
      "acacababababababababbbababababababababbcabadabababababababababababababababababababababa",
      "babababababababgcacbbaeababababCqczHlabadadcsaBbBibbdcbabababababababababababebacacbBzB",
      "vbababababababababababababababababajabababababababababababababababababababababababababa",
      "bacababababababbbababababababababababababababababababababababababababababababababababab",
      "ababababababababababababaBwBoEHbBqccBDgfDFuibaEnBrClmbBhDyababababababababababababababa",
      "bababababababababababababababababababababababababababababababababababababababababababab",
      "ababababababababababababababababibababababababababababababababababababababababababababa",
      "babababababababababababababababababababababiifkhihifkhihinchihihiebbgadcbbidcbihkcbbKoa",
      "dbdaBbaeaeacbideaCbaEBbBvbadbbababaeabbbffababababababababababababababababababababababa",
      "bababababababababababababababababababababababababababbhabaeamBlbafaBTWdabababababababab",
      "ababababababababababababababatabababababababababababababaFfababababababcbababababababab",
      "ababababababababababababababababababababababababhbabacababababaeabacabcbabababababababa",
      "babafafabababababababaeabacadabababababaBaadaBFpBqfihDbBEAigmeBOzzBVhBnFgBjFzkbobgbbCRb",
      "ByEvvEGoBfBGJwBfBMMkzBagbrBazBadbabgbkBazBazBazBazBazBazBazBazBaBbBcybfBaybfBaybfBaybfB",
      "aybfbaCSyjbtgfDUdBh"]
  | titlecaseLetter => unpack ["RlacacaBmaLFhhihihmapaBva"]
  | modifierLetter => unpack [
      "BAmreloehabaFdafaSkaIwaGibKjbeaBfajadaGeaGlaBVoaExaVtaCPmaEdaXnaRwfGsCknaBiBkBAnanaqmEM",
      "xbJhaHjaSbaBrefaDtbDpcBQBuaBWcfKkaEkaBcbEriDcaxaEbcdbSbawaFhaEeavbDzdjaBFViaBtbCZofbBpb",
      "iCCxaBgaBJNsdTocBobVemCmbbaYGqdbgbbSGnCjHtgBKfaBRba"]
  | otherLetter => unpack [
      "GoapaJwaedIabBFuBaedBtBfbjBjbbDubaybkccaqabBdBdDklayBgvvBqyhkfxbfrBoChCbdasahjqoehcbcvb",
      "gbadddaqanbbcobkaifebcvbgbbbbbbBfdbatcqibcbvbgbbbedasapbxalhcbcvbgbbbedaBebbcparabfdcbd",
      "dbbabbdbdcdlwaCahbcbwbpdaBaccacbBeaehbcbwbjbedaBfbbbpbribcbBocaqafcicyffrdxbibacgCgBvbb",
      "mfChbbabebxbabjbbjacexdBgaClhbBjBbeElBquaqfeddadbhcemmaEjMqbdcgbabdcBobdcBgbdcgbabdcobC",
      "ebdcCoBlpEjXvcqbzfCwghhrnsorombcpBzBoaCpBibCahecBhbafCrkBeBxBdcelBrezCcwjCaGuBurhCcBdnb",
      "kBrBaBjBpckBdEjdbfbbdaBPqdENvCdywjgbgbgbgbgbgbgbgVfaCbaeDhiabDleafBqbDprBfBwpTsJTnCmBFC",
      "ebBRyCpBniKhepkbCoaBxCrGnaDzadgbcbdbwBdBzoBxCkfdabblBbkwzBchBuBtecikebBoxcbhupbfdadBxba",
      "dbcecabaybdkhaofcfcfjgbgFpBiBdQNrmweBwMNcObcEbCpabjbmbebabbbbbEdBhNysClcCbBolEmebFeEbjb",
      "BscBedfcfcfccBjlbzbsbbbocnBiEsOzBcdBwBvBfntbhgBlkBdcBjehEyCzDuBniBzDoBzmLyjvkhFwfcabBrb",
      "bdacwkwjBeCnsbbkvkzCsCdgbCmapdbcbBcBqBcdBcBjhbBbBbCbkvksnrEgCuHbBjBmdbaLsBpgbqcChBckaiv",
      "BqrBuuBbwmCaCfbcanBsBgyBaBjBdacaiBidamBvodvabaBjrbytbClgbabdbobjhBuBmhcbcvbgbbbedasameB",
      "ejbacabBlbazabaBsCasducBeBvubbaHcBuBpdBkBvuaChBqnaCtBaBlgHdBrIdhcachbbbxpabaDqhcBmqabaB",
      "cakBnhavalBttasCuHrBgBfibBkraBxBdEigbbbBlvazfbbbBfoaMpspabmbBhEuaDbBJlIwHnDXkDspBPfrfzF",
      "XqfWkKDdBdCPuVwhBerDarBdsBvBzufsQtBnPpCwfaGtJBziBVpBpjNGhLepaBdccaodiPfDKuEcfmdihjNBcaT",
      "hBsBhaMjBdsBrSqBaIvBdcaTbgbdbbbobHoBZndbBabbbacabjbdbabagaeabababcbbbacabababababbbacdb",
      "gbdbdbabjbqfcbebqGOaCLFbBgGDtgIncINpoLBkpXxDQwUvCFyHHyfGFf"]
  | nonspacingMark => unpack [
      "BDoEhKpeKfBsbabbbbbaCukBwuqaDxgcfcbbdBjaBeBaDnkCgijaydbibcbeBrcChiBqxbBfCdabaeheadgkbBd",
      "aCgaediaubBaacbCfaebebccdaBebdalbCfaeebbeaubwfbaCgacabdiahblbBeaCjamaByadaCdabcfcbdhblb",
      "BdaCgacagafbubBcbCfbediaubBdaCuahcbaDmacgmhDuacilgCvbBbababaCdnbebbfkbBjjaDydbfbbcbzbec",
      "qdnacbgapaBBbcBKkcBdbBebBebCmbbgiackjaBtcbaEnbBiaEocebjagcIlbcaCgabgbabachgjcaBwnbpBxdB",
      "wabebafaBoimbBgdcbbcCeabbdabcCghcbFwcbmbgeagadbHqClBBsmeadlEOccFlaDsBfVidEdbBSQeaejBgbD",
      "cbKmadaeazbfaFvbBarnaBmhzkBucBwacdcbBnaCpfcbcbmaiaBvaBzabccbfbbaBqbiaJeacaeaBDZsaBCjpqp",
      "BLlaIsaFteCMgcbbfdBoceaGjbWbdCneMfbDbdCskBxdEtaCcoBpacbkcBxdcbhaCjcBkebhCkambCaikdcaDrc",
      "cabbgacaGbadhvbCfbdaBlgdeCsfnababaobDhhccbaxaDgfbaebbbJedgbbbBbbDhhcabbEcabacfbaDxabacd",
      "beJzibbJwbbaeaFodcbeaBgjBofcdiajfccBumbbPqgbfbaDevcgbbbbEsfdabbbgbaCubdabaNjblbCaefabax",
      "aHXtagoQYyldcDSaeChgBOiaCldDdaBDBkbGYzBtcwUycrhcgBedFscCYdCceBxiaoaweboCAigbqcgbbbeDwaG",
      "egOlaCjdTodJubBCigEfgBTCIvJf"]
  | spacingMark => unpack [
      "DKtaCdaccidbbBybCgcgbcbkaBraCgcCoaCgciabbCbbCgabagbcbkaDybbbdcbckaBpcCjdCjbCgabecbbbjbB",
      "caobCgcfcbckaBqbCxcghsbMsbClaGpbeagacbzbkccgvbcfcakcCLsaBeaEzahhbbNidccebbfIqbCgabajabb",
      "ifFpaBwafabebbCjaBeaebcaCiaccbadbBwhibGpavaHHebBTLbbcaDkbBypFmbBvaBwbebccEgbcbyaBtabaEf",
      "acbfaJdbbbbbbaBLXjabaExaBtcebElaybChaBwcjbnaDpcdbbaGocBfbCgbbdcbccjakbDgchacabdbbbaDxci",
      "bdaEccgabdcaJdcgdcaEjcibbaEfabbgaDzabbeaKbcjaJnfbbeacabaFmcideaDgaBdbCkaPraoaEcahacaIfe",
      "ebbaNmbmaBwbibbaYYycFJgCcEabBKXnbgf"]
  | enclosingMark => unpack ["BSqbIKqaCIgdbcBYOxc"]
  | decimalNumber => unpack [
      "BwjCIojFejHqjPwjEojEojEojEojEojEojEojEojEojDsjEojCsjKsjCsjCTqjBmjLojEyjGkjgjHajDijFejgj",
      "CAEojBAcjBmjHqjwjDijPqjBFMcjCCkjDFyjgjBEqjEyjCijFojKsjNejEojOkjDyjgtCyjQgjDyjZmjDijJmjC",
      "sjQgjYYgjDMcjDijFejUojBKDyjECqBxDNcjQgjTijJnjBGvjHBaj"]
  | letterNumber => unpack ["IRucDYtBicdFMsaziocBSYljBIFgCaRsaiaFeeMEsEg"]
  | otherNumber => unpack [
      "GwbfaccDMrfOmfEqcFdgIjgriQrjBPltBRvjSmaCMvadfgjHqpBpaBByChDavYgBdCBhaBTcdFijBehboBgjBno",
      "BSMifBHQnBsCndrbNdBaBkdBZghzgBniCxewfGebcpcBtCmiCabBecCxeEahyhBpgMsfNoBeGcjBqdEigFetOpt",
      "BZxbQoiBHnsBGtuBCPqgBEswBLYftmtEeyIBuiBJtCgbcbdCyBsboBLam"]
  | connectorPunctuation => unpack ["DraMBvbtaDGAobycJfa"]
  | dashPunctuation => unpack [
      "BtaCAuaBzaFKjaBNpaDBdfFHxacaBfbeaBcaReataEhaCZWabBlakaGnaFLoaMga"]
  | openPunctuation => unpack [
      "BoaByaBfaFPeabaCUoaDPmadaBmaCdapaYkabaBeaBPuababababababaDcaBgababababaPoababababababab",
      "abababaCmabaBhaBOvabababazasabababaQmababababadabababacaCZRtaIhaBdabababababababadaraba",
      "baGoaByaBfadaca"]
  | closePunctuation => unpack [
      "BpaBzaBfaFPdabaCUoaDRdaCdapaYkabaBeaBPuababababababaDcaBgababababaPoabababababababababa",
      "baCmabaBhaBOvabababaBsabababaQmababababadabababacbCZRqaIjaBdabababababababadarababaGoaB",
      "zaBfacaca"]
  | initialPunctuation => unpack ["GpaLXkacbcazaFFsabaeacapada"]
  | finalPunctuation => unpack ["HfaLWvadaBcaFFsabaeacapada"]
  | otherPunctuation => unpack [
      "BhcbccababbkbdbBbaCqafaobhaBBaaiaRyfBpaCcacacaBsbubbbnabcCwdDyaBrnIzcCcoBfaKbbkaFkaEqaE",
      "raPaamaOdaDmakbGmobaEiaCweebEhfGpaXoiBDtaEucCtbGbcbcBlfbdMbbIibEygbfGebkgBccEudCheCkbCm",
      "hlaBGcbihiicdccdkbabjEUcdbbEiaFnbeccacibbbacbkebjcdbabmccQmcCfaHhaBRYgbKjcDvakaElfOqdDi",
      "bBocbaBxbBvaDtmqbEudEwbqbJpaBFCugcawaubcddcbdhcgabbFtcbccababbkbdbBbaBkacbPucZsaBwaPyaB",
      "CpaHraBfaKmiBmaEigCogDldBKqeBsdHhgEfbbdEwdBwbDbdeanabcDkfEdaLmbbbEkekbbaEaaJqwEbcBcmCya",
      "FacJsaKecFzaDohDfcbeDpjIhaDreBqbYvbCwmGtaBRseEJcbWDvbFdaCneiaVgcLjdMpaBDBoaLIleEItaBHeb"]
  | mathSymbol => unpack [
      "BraqcCjabaBtaeaBlaBfaBDmaUhcJYhanaBncncFjaBnegaCqefbeacacahaBfbcabaBfKhBgbDmaBeyBofSbaj",
      "aCchEhaMyecBekpJwFawCkeBfcJxBwucfDASqaBFsabcGiaqcCjabaFbagdFEfbCYEzazaBfazaBfazaBfazaBf",
      "azaIUeb"]
  | currencySymbol => unpack [
      "BkaEvdBWjaEtaTebTebhaJlaKdaWjaDQpaDIiBgBZHvaBGMlaEeaFyaIlbdbMCsdCVXeaDRka"]
  | modifierSymbol => unpack [
      "DqabaCtagaeadaUbdmnfgbabqEnaobBXiaIUmabclcncncnbGHobBSVrwjbDzbBLoaobBEKkqBIhabaGgaDOLje"]
  | otherSymbol => unpack [
      "GkacaeabaBLpaKgbExbHyakatbJnaTvaOjaFafbaFcaHzaBpaPbcpabccfuababaFdhbfbbfdHpbBCyjBBvaBBu",
      "aGbBhNpjjiCChbbdbbkabbgfbababaealboabbbaCgbjecdbbbbbgbBecbbabBeKihetcgcDcbBdzBngCtwkDdC",
      "zwHabibCbiEgbJnBsBrCmJvTsBvvbgBmcBfbEaIvfNtbBuzbDkmIfBapeanbmavbgbMybejBgBljaqBelBdiapB",
      "fkBmpMhJToClBGUiCcBHhdkbbaWbcBFJapExaBtcSqadaebnbMbiCfqccbmdaBvBsCLubWtaESsaDGnheqBCNid",
      "faBEUwaFVnJfqQtGaElCiJlkBmcChfcwbhBdeCivCndaHeDiBTxTrCddByhbnbbCOuaEHwaEzaBBtBreDvmocob",
      "obBkxGeCeBcnBreihbofFyJqfBBzeqdmdEoeDqgleapleCdijgBniBdclebCkNbmncmdjfCdhockgihFqbDn"]
  | spaceSeparator => unpack ["BgaExaIHjaDPnkBkaBvaFXwa"]
  | lineSeparator => unpack ["MEqa"]
  | paragraphSeparator => unpack ["MEra"]
  | control => unpack ["aBfDrBg"]
  | format => unpack [
      "GraCAkfwaHkaBxaOubDcaFTjaDAqeBaeBxebjDGHjaJpcGIzapaNKkpBZQudHWxhBTKZmaBeDr"]
  | surrogate => unpack ["DDUuDAt"]
  | privateUse => unpack ["DGVoJMdCAHXoDSYncDSYn"]
  | unassigned => unpack [
      "BIebgdhabauaPhaBmbBybdaCdhBbdgkKkaCibDxnChbBxbpaBcbbaleBfaceJdaibcbwahabcebjbcbehbdcafb",
      "zbdagdcbwahacacacbbafdcbdcbgeabgrjdajadawahacafbkadadbboebmghadaibcbwahacafbjbcbdgddcaf",
      "bsjcagcdaeccabaccccdcmdfcdaebbfbnvenadaxaqbjadaegcadbbbebkgwadaxakafbjadaegcfcaebkadlna",
      "daBzadagdqbBaadascyajabbhcbdgabaifkbdlCgdBdBkcabafayabaxbfabahakbeBfCuaBkdBnaBkapanBkHq",
      "abebbOnaebhabaebBpaebBhaebhabaebpaCfaebCpbBgcBafDibgbZtcDlgwiyiulnadaclDqbkfkfBafDlgBre",
      "CsjBfamdmdbcBqbfkBsdBaflcCkbCnaBdblfkfobBfBwCzaGkhCicpcCkeBrblhBreUobgbBmbgbiabababaBfb",
      "CbapaobgatbdajaDxambBbancBhoBhoFkdZqvluCRsbBgaNleBtabebbCegcnyihahahahahahahahaEwBhBaaD",
      "llIgzDcaDibDzeBraDqaDiiBwaBRIrcCdiNktHchHybcabaiuChckfCehCshmfEmkBecDaaldBhaCdiobkbDzxB",
      "cjgbgbgihahaCidEwbkfQNslxdBxdNBabEcBlhlfeBaafabacacaEvpRdbCcgbBfBqfBzataedfaFfbbaHicgbg",
      "bgbdchahjfbmaBaatacapboBhEteddBtcDkancbBuBuEzBdcBxoBcdBkiBeeBreBeaBldoBpGcbkfBkdBkdBohC",
      "akmapahacalapahaccCalLziwjixgaBqajCqgbbaBsaccbbxaCuhjBvtaceBhcBbebClCedubByaceiadaBdbdd",
      "kgjgCmBfBndmiCccBdbBbeBagelhDbCvCcBzmBzgBuhkfBmcBdhcHzBfaBqadbcpdCcBshBqvBaBlBctxiDadBk",
      "iCqjbbzgkfCbashBniDsauksaBvCjhabaeapalfChekfeaibcbwahacafakbcbdbbfbehbhcfkkabbbaBmakabb",
      "baeakachcBcDoafBdCuhkGjCcbBmBhCrkkfnsCgfkfuBbBbbpdxHcCiDvDflibbbiacaBeacbmikCribBublBaC",
      "uhDfmCvgkGzBinkfjaBtaojBdcBgbwaoCuhacaBscbacajhkfgacaBlacaggkLxzgraBpcBdDgboBymBJnDxEha",
      "fkHoDXjDvmBQsjFXreWlKDcCgCOrVxgBfakdDdakfBebgjCsjkahavetQpCgHpDnDwCxdCfgrClfkcnJCahBVqB",
      "okNFqeahacaLfobBcdbbnehPgDKtEdencjgkbiFVfJqfQuCxBubxiEmChJmjBnbHmuCsErululDjizFeDhaCtac",
      "bbbcbeamabahaCnaebiahaBcaeafabchaNcbLgbBBaofapBQlBffgIeharbhacafeCkBgbEhBtcobkdcMhBfqCg",
      "ebRvBqIfBrdbSlhaeacapaHpbqBoCydkdcBEeCqCxCjHleaBbacabbbakaeababfbdbababadacabbbabababab",
      "acabbeahaeaeabakaredafarBzcKjBsdDwlpbpapaBljGsCdBdmBsdjgcngFxBLwdrcncEpdDrfmdbomdCehkfB",
      "ohBebmdcCjNclobnckeCegpblfjgFraDyBNpCLFcBfGDufIobINqnLBloXyDQvUwCFxHHzeGFgBOMXkbBdDsExJ",
      "gDSFnDSYobDSYob"]

def letters : List Category :=
  [uppercaseLetter, lowercaseLetter, titlecaseLetter, modifierLetter, otherLetter]

def marks : List Category := [nonspacingMark, spacingMark, enclosingMark]

def numbers : List Category := [decimalNumber, letterNumber, otherNumber]

def groups : List (List String × List Category) := [
  (["l", "letter"], letters),
  (["lc", "casedletter"], [uppercaseLetter, lowercaseLetter, titlecaseLetter]),
  (["m", "mark", "combiningmark"], marks),
  (["n", "number"], numbers),
  (["p", "punctuation", "punct"], [connectorPunctuation, dashPunctuation, openPunctuation,
    closePunctuation, initialPunctuation, finalPunctuation, otherPunctuation]),
  (["s", "symbol"], [mathSymbol, currencySymbol, modifierSymbol, otherSymbol]),
  (["z", "separator"], [spaceSeparator, lineSeparator, paragraphSeparator]),
  (["c", "other"], [control, format, privateUse, unassigned])]

def find? (name : String) : Option (List Category) :=
  match all.find? fun c => c.names.contains name with
  | some c => some [c]
  | none => (groups.find? fun g => g.1.contains name).map (·.2)

end Category

def hasCategory (cs : List Category) (n : Nat) : Bool := cs.any fun c => inRanges c.ranges n

end Overseer.Text.Unicode
