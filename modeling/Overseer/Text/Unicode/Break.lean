import Overseer.Text.Ranges

/-!
The classes of code points that decide where a text can be cut into graphemes, words and sentences.
-/

namespace Overseer.Text.Unicode

abbrev BreakClasses := List (List String × Ranges)

namespace BreakClasses

def grapheme : BreakClasses := [
  (["control", "cn"], unpack [
    "ajbbbrDrBgnaCBmaGUraDAqacbygBxpDGHjaJglTUapBZQudHWxhBTKZlBfDsExJgFIl"]),
  (["cr"], unpack ["na"]),
  (["extend", "ex"], unpack [
    "BDoEhKpgKdBsbabbbbbaCukBwuqaDxgcfcbbdBjaBeBaDnkCgijaydbibcbeBrcChiBqxbBfCdabaeheadgkbBdaC",
    "gabacdiajakbBaacbCfaebebccdaBebdalbCfaeebbeaubwfbaCgabbbdiahckbBeaChabamajaBoadaCdabcfcbd",
    "hblbBdaCgacbbadcbdhblbBcbCfbbacdiajakbBdaCuaeaccbaiaDdacgmhDuacilgCvbBbababaCdnbebbfkbBjj",
    "aDydbfbbcbzbecqdnacbgapaBBbcBKkdBccBdbBebCmbbgiackjaBtcbaEnbBiaEocebjagcIlbcaCgabgbabachg",
    "jcaBwBeBxdBwjecBmimbBgdcfCeabbdabeCehcbFwcbmbgeagadbHqClUeaHnBgEOccFlaDsBfVifEbbBSQedbjBg",
    "bDcbKmadaeazbfaFvbBarnaBmhzkbaBscBwacdcbcaBkaCpfcbcbmaiaBvaBzabccbfbbaBqbiaJeacaeaBDZsaBC",
    "jpqpOcbXhaIsaFteCMgcbbfdBoceaGjbWbdCneMfbDbdCskBxdEtaCcoBpacbkcBxdcbhaCjcBkebhCkambCaibai",
    "dcaDrccdgacaGbadhvbCfbbabamajaogdeCpacfbacabcecbaobDhhccbaxaDdacfbacabbbbJbacdgbbbBbbDhhc",
    "abbEcabachDxabacdbeJzibbJlakdeaFodcbeaBgjBofcdiajfccBumbbPqgbfbaDevcgbbbbEsfdabbbgbaCubda",
    "baNjblbCaefcxaHXtagoQYyldcDSaeChgBOiaCldDdalbBDAxbGYzBtcwUwedfihcgBedFscCYdCceBxiaoaweboC",
    "AigbqcgbbbeDwaGegOlaCjdTodJubBCigEfgEBgeBSXYuDrEyJf"]),
  (["l"], unpack ["GLkDrCFOqBc"]),
  (["lf"], unpack ["ka"]),
  (["lv"], unpack [
    "CNDoaBbaBbaBbaBbaBbaBbaBbaBbaBbaBbaBbaBbaBbaBbaBbaBbaBbaBbaBbaBbaBbaBbaBbaBbaBbaBbaBbaBba",
    "BbaBbaBbaBbaBbaBbaBbaBbaBbaBbaBbaBbaBbaBbaBbaBbaBbaBbaBbaBbaBbaBbaBbaBbaBbaBbaBbaBbaBbaBb",
    "aBbaBbaBbaBbaBbaBbaBbaBbaBbaBbaBbaBbaBbaBbaBbaBbaBbaBbaBbaBbaBbaBbaBbaBbaBbaBbaBbaBbaBbaB",
    "baBbaBbaBbaBbaBbaBbaBbaBbaBbaBbaBbaBbaBbaBbaBbaBbaBbaBbaBbaBbaBbaBbaBbaBbaBbaBbaBbaBbaBba",
    "BbaBbaBbaBbaBbaBbaBbaBbaBbaBbaBbaBbaBbaBbaBbaBbaBbaBbaBbaBbaBbaBbaBbaBbaBbaBbaBbaBbaBbaBb",
    "aBbaBbaBbaBbaBbaBbaBbaBbaBbaBbaBbaBbaBbaBbaBbaBbaBbaBbaBbaBbaBbaBbaBbaBbaBbaBbaBbaBbaBbaB",
    "baBbaBbaBbaBbaBbaBbaBbaBbaBbaBbaBbaBbaBbaBbaBbaBbaBbaBbaBbaBbaBbaBbaBbaBbaBbaBbaBbaBbaBba",
    "BbaBbaBbaBbaBbaBbaBbaBbaBbaBbaBbaBbaBbaBbaBbaBbaBbaBbaBbaBbaBbaBbaBbaBbaBbaBbaBbaBbaBbaBb",
    "aBbaBbaBbaBbaBbaBbaBbaBbaBbaBbaBbaBbaBbaBbaBbaBbaBbaBbaBbaBbaBbaBbaBbaBbaBbaBbaBbaBbaBbaB",
    "baBbaBbaBbaBbaBbaBbaBbaBbaBbaBbaBbaBbaBbaBbaBbaBbaBbaBbaBbaBbaBbaBbaBbaBbaBbaBbaBbaBbaBba",
    "BbaBbaBbaBbaBbaBbaBbaBbaBbaBbaBbaBbaBbaBbaBbaBbaBbaBbaBbaBbaBbaBbaBbaBbaBbaBbaBbaBbaBbaBb",
    "aBbaBbaBbaBbaBbaBbaBbaBbaBbaBbaBbaBbaBbaBbaBbaBbaBbaBbaBbaBbaBbaBbaBbaBbaBbaBbaBbaBbaBbaB",
    "baBbaBbaBbaBbaBbaBbaBbaBbaBbaBbaBbaBbaBbaBbaBbaBbaBbaBbaBbaBbaBbaBbaBbaBbaBbaBbaBbaBbaBba",
    "BbaBbaBbaBbaBbaBbaBbaBbaBbaBbaBbaBbaBbaBba"]),
  (["lvt"], unpack [
    "CNDpBabBabBabBabBabBabBabBabBabBabBabBabBabBabBabBabBabBabBabBabBabBabBabBabBabBabBabBabB",
    "abBabBabBabBabBabBabBabBabBabBabBabBabBabBabBabBabBabBabBabBabBabBabBabBabBabBabBabBabBab",
    "BabBabBabBabBabBabBabBabBabBabBabBabBabBabBabBabBabBabBabBabBabBabBabBabBabBabBabBabBabBa",
    "bBabBabBabBabBabBabBabBabBabBabBabBabBabBabBabBabBabBabBabBabBabBabBabBabBabBabBabBabBabB",
    "abBabBabBabBabBabBabBabBabBabBabBabBabBabBabBabBabBabBabBabBabBabBabBabBabBabBabBabBabBab",
    "BabBabBabBabBabBabBabBabBabBabBabBabBabBabBabBabBabBabBabBabBabBabBabBabBabBabBabBabBabBa",
    "bBabBabBabBabBabBabBabBabBabBabBabBabBabBabBabBabBabBabBabBabBabBabBabBabBabBabBabBabBabB",
    "abBabBabBabBabBabBabBabBabBabBabBabBabBabBabBabBabBabBabBabBabBabBabBabBabBabBabBabBabBab",
    "BabBabBabBabBabBabBabBabBabBabBabBabBabBabBabBabBabBabBabBabBabBabBabBabBabBabBabBabBabBa",
    "bBabBabBabBabBabBabBabBabBabBabBabBabBabBabBabBabBabBabBabBabBabBabBabBabBabBabBabBabBabB",
    "abBabBabBabBabBabBabBabBabBabBabBabBabBabBabBabBabBabBabBabBabBabBabBabBabBabBabBabBabBab",
    "BabBabBabBabBabBabBabBabBabBabBabBabBabBabBabBabBabBabBabBabBabBabBabBabBabBabBabBabBabBa",
    "bBabBabBabBabBabBabBabBabBabBabBabBabBabBabBabBabBabBabBabBabBabBabBabBabBabBabBabBabBabB",
    "abBabBabBabBabBabBabBabBabBabBabBabBabBabBa"]),
  (["prepend", "pp"], unpack ["CHcfIhaBxaOubDcaBRnaDUGkapaJkbUfaCBlabaJoaCvfBAyaRba"]),
  (["regionalindicator", "ri"], unpack ["HGOkz"]),
  (["spacingmark", "sm"], unpack [
    "DKtaCdaccidbbBybChbgbcbCcaCgcCoaCgciabbCbbCiagbcbEkabbdcbcCacCjdCjbCgacabbBuaobChbfcbcCbb",
    "CybggtbClaExaFibClaGvajbzbBsaCSvahhbbNidccebbfIqbCgabavfFpaCfdCmaBeaebClaccbaCbhibGpavaCA",
    "ShbcaDkbBypFmaBwaBwbebcbEhbcbyaGbacbfaJdbbbbbbaBLXjabaExaBtcebElaybChaBwcjaoaDpcdbGqcBfbC",
    "habdcbcbvbDhbpabbDzcibdaEdbgabbbacaJebgdcaEjcibbaEfabbEoaKbcjaJoebbhabaFmcideaDgaBdbCkaPr",
    "aoaEcahacaIfeebbaNmbmaBwbibYZacFJgCc"]),
  (["t"], unpack ["GRwDjCWXnBw"]),
  (["v"], unpack ["GPcCtCWZwwCERcadd"]),
  (["zwj"], unpack ["MDpa"])]

def word : BreakClasses := [
  (["aletter", "le"], unpack [
    "CnzgzBvakaeafwbBebSlgBhEiebbcdbagabcbabtbDebFiiGjbBlcdbabBobaEaaBsBqBjbbDubapbhbkccaqabBd",
    "BdDklayBgjbeafveajadaxyhkfxbfrBpCgCbdasahjppehcbcvbgbadddaqanbbcobkaifebcvbgbbbbbbBfdbatc",
    "qibcbvbgbbbedasapbxalhcbcvbgbbbedaBebbcparabfdcbddbbabbdbdcdlwaCahbcbwbpdaBaccacbBeaehbcb",
    "wbjbedaBfbbbpbribcbBocaqafcicyffrdxbibacgMbaClhbBjBbeKpBlbafacBqbMubdcgbabdcBobdcBgbdcgba",
    "bdcobCebdcCoBlpqDhcfdXvcqbzfCwdkhrnsorombcGtDkhecBhbafCrkBeIrwJeBurhCcBdnbkBrBaBjBpckBjck",
    "fBqccBpdbfbbdafHjCmKrcfcBlcfchbabababBecCabgbadcbgddcfemfcbgEmanaqmDxaeacjbadegabababdbkc",
    "dfeearBoBFhBzCRuIugddbmBlbafacCdhaqwjgbgbgbgbgbgbgbgDcaSbaCbbHsBqbDprBfBPToBSuCpBtcKidpkb",
    "uBuqBecDbyHpcbbabhvpbcbdbwBdBzoBxCkfdabblBbkwzBchBuBcaBwBoxcbhFskhcmfcfcfjgbgbCfgEkBdQNrm",
    "weBwNGugmeCeDtBhNysClcCbBolEmebFeBkzgzCrBedfcfcfccBjlbzbsbbbocnBiEsCrCaKhBcdBwBvBfnBdfBlk",
    "BdcBjehbeBqGbsBjeBjeBniBzmkbobgbbbkbobgbbdBzmLyjvkhyfbBpbiCrfcabBrbbdacwkwjBeCnsbbkvkzCsC",
    "dgbCmapdbcbBcBqBcdBcBjhbBbBbCbkvksnrEgCuCdBynBynBjBmBbjwJqBpgbqcChBckaivBqrBuuBbwmCaCfbca",
    "nBsBgyBaBjBdacaiBidamBvodvabaBjrbytbClgbabdbobjhBuBmhcbcvbgbbbedasameBejbacabBlbazabaBsCa",
    "sducBeBvubbaHcBuBpdBkBvuaChBqnaMpBrEmClBfhcachbbbxpabaDqhcBmqabaBcakBnhavalBttasCuHrBgBfi",
    "bBkraBxBdEigbbbBlvazfbbbBfoaMpspabmbBhEuaDbBJlDyEgrHnDXkDspBPfrfzFXqfWkKDdBdCPuVwhBerDarB",
    "dsBvqdBfufsQqBsIdClEyCwfaComCmbbaBCVkEcfmdihjIWkDgbCsbbcacbcdblbabgbCmbdchbgbBbbdbebadgbN",
    "bcybybBebybBebybBebybBebybhCSyBegfKbCjFqBskgqaMjBdsBrSqBbIuBdcaTbgbdbbbobHoChCphaBUidbBab",
    "bbacabjbdbabagaeabababcbbbacabababababbbacdbgbdbdbabjbqfcbebqYezgzgz"]),
  (["cr"], unpack ["na"]),
  (["doublequote", "dq"], unpack ["Bia"]),
  (["extend"], unpack [
    "BDoEhKpgKdBsbabbbbbaCukBwuqaDxgcfcbbdBjaBeBaDnkCgijaydbibcbeBrcChiBqxbBgCccbrbgkbBdcCeabg",
    "cbccjakbBaaccCeabeebccdaBebdalcCeabhbcbcubwfbcCeabgcbcchckbBeaChedcbdjaBoeCdabgbcbdhblbBd",
    "cCeabgbcbdhblbpamdCdbbgbcbdjakbBdcCsaefbabhsbCjacgmhDuacilgCvbBbababaebBxtbbfkbBjjaDwtxde",
    "cbccgddnlbakdBBbcBKkdBccBdbBebCmBfjaBtcbaEnbBiaEolelIleCfjbBccaBwBeBxeBvqBmimcBemCenBwtFw",
    "cbueagaccHqClUeaHnBgEOccFlaDsBfVifEbbBSQedbjBgbDcbKmadaeaxeeaDfbByrBarnaBmhzmBsdBvnBkaCpn",
    "maibBtcByabccbfbbaBpefbJchbbBDZsaBCjpqpOcbXhaIsaFteCMgcbbfdBoceaGjbWbdCneMfbDbdCskBxdEscC",
    "boBpacbkdBtkhaCjcBknqbBsamcBwnidbbDolgacaGblvdCdbbgcbccjakbcgdeCpibacabdbebaobDerxaDdtJbg",
    "ciBbbDeqEcmDxoJwoJlfbbcdbabbFlgcgdaBcjBogbdiajkBupPphbhDevbnEsfdabbbgbaCoebbbeNjdjbbaBwgd",
    "exaHXtagoQYyrDSaeChgBOiabCchdDdalbBDAxbGYzBtcwUwedfihcgBedFscCYdCceBxiaoaweboCAigbqcgbbbe",
    "DwaGegOlaCjdTodJubBCigEfgEBgeBSXYuDrEyJf"]),
  (["extendnumlet", "ex"], unpack ["DraMBfapbtaDGAobycJfa"]),
  (["format", "fo"], unpack [
    "GraCAkfwaHkaBxaOubDcaFTjaDAtbBaeBxebjDGHjaJpcGIzapaNKkpBZQudHWxhBTKZma"]),
  (["hebrewletter", "hl"], unpack ["CFgBaedDOVyabjbmbebabbbbbj"]),
  (["katakana", "ka"], unpack ["SGneDxbdDmbdJgpIaBubDjCZHeCdCOUcdbgbbbaLbcByaod"]),
  (["lf"], unpack ["ka"]),
  (["midletter", "ml"], unpack ["CgaEuaBBraSdaFsaJXyaDGBbaCnaHoa"]),
  (["midnum", "mn"], unpack ["BsaoaBGcaUcaFabDqaPfaJFfaDFZvadaChadaHbaoa"]),
  (["midnumlet", "mb"], unpack ["BuaMCfbkaDGDpaGyaga"]),
  (["newline", "nl"], unpack ["lbEqaLZmb"]),
  (["numeric", "nu"], unpack [
    "BwjCIojbaFcjHqjPwjEojEojEojEojEojEojEojEojEojDsjEojCsjKsjCsjCTqjBmjLojEyjGkjgjHajDijFejgj",
    "CAEojBAcjBmjHqjwjDijPqjBFMcjCCkjDFyjgjBEqjEyjCijFojKsjNejEojOkjDyjgtCyjQgjDyjZmjDijJmjCsj",
    "QgjYYgjDMcjDijFejUojBKDyjECqBxDNcjQgjTijJnjBGvjHBaj"]),
  (["regionalindicator", "ri"], unpack ["HGOkz"]),
  (["singlequote", "sq"], unpack ["Bna"]),
  (["wsegspace"], unpack ["BgaIMhaDPngbcDgaFXwa"]),
  (["zwj"], unpack ["MDpa"])]

def sentence : BreakClasses := [
  (["aterm", "at"], unpack ["BuaMCraDGDpaHfa"]),
  (["close", "cl"], unpack [
    "BiaecBxabaBdabaBtapaFMsdCUnbDPjhzbkbCcbobYjdBdbBPgfhnDbbBfjPnvCldBgbBNmnobcjyashQljchbcCZ",
    "RqbIhbBcpcbqfGnbBxabaBdababbbbDPOsc"]),
  (["cr"], unpack ["na"]),
  (["extend", "ex"], unpack [
    "BDoEhKpgKdBsbabbbbbaCukBwuqaDxgcfcbbdBjaBeBaDnkCgijaydbibcbeBrcChiBqxbBgCccbrbgkbBdcCeabg",
    "cbccjakbBaaccCeabeebccdaBebdalcCeabhbcbcubwfbcCeabgcbcchckbBeaChedcbdjaBoeCdabgbcbdhblbBd",
    "cCeabgbcbdhblbpamdCdbbgbcbdjakbBdcCsaefbabhsbCjacgmhDuacilgCvbBbababaebBxtbbfkbBjjaDwtxde",
    "cbccgddnlbakdBBbcBKkdBccBdbBebCmBfjaBtcbaEnbBiaEolelIleCfjbBccaBwBeBxeBvqBmimcBemCenBwtFw",
    "cbueagaccHqClUebHmBgEOccFlaDsBfVifEbbBSQedbjBgbDcbKmadaeaxeeaDfbByrBarnaBmhzmBsdBvnBkaCpn",
    "maibBtcByabccbfbbaBpefbJchbbBDZsaBCjpqpOcbXhaIsaFteCMgcbbfdBoceaGjbWbdCneMfbDbdCskBxdEscC",
    "boBpacbkdBtkhaCjcBknqbBsamcBwnidbbDolgacaGblvdCdbbgcbccjakbcgdeCpibacabdbebaobDerxaDdtJbg",
    "ciBbbDeqEcmDxoJwoJlfbbcdbabbFlgcgdaBcjBogbdiajkBupPphbhDevbnEsfdabbbgbaCoebbbeNjdjbbaBwgd",
    "exaHXtagoQYyrDSaeChgBOiabCchdDdalbBDAxbGYzBtcwUwedfihcgBedFscCYdCceBxiaoaweboCAigbqcgbbbe",
    "DwaGegOlaCjdTodJubBCigEfgBTCAfDrEyJf"]),
  (["format", "fo"], unpack [
    "GraCAkfwaHkaBxaOubDcaFTjaDAqacbBaeBxebjDGHjaJpcGIzapaNKkpBZQudHWxhBTKZma"]),
  (["lf"], unpack ["ka"]),
  (["lower", "lo"], unpack [
    "DtzBvakaeaBkxbhbabababababababababababababababababababababababababababbbabababababababbba",
    "babababababababababababababababababababababacababccabacadbeacadccacababacabbbacadabacbccg",
    "acacababababababababbbababababababababbcabadababababababababababababababababababababababa",
    "bababababababgcacbbaeababababCqbBjhbBeeFkabadacdsaBbBibbdcbabababababababababababebacacbB",
    "zBvbababababababababababababababababajabababababababababababababababababababababababababa",
    "bacababababababbbabababababababababababababababababababababababababababababababababababab",
    "abababababababababababaBwBoEItaBDjfDFuibaEnHjCnababababababababababababababababababababab",
    "ababababababababababababababababababababababababababababababababababababababababababababa",
    "bababababababababibababababababababababababababababababababababababababababababababababab",
    "abababababababababababababiifkhihifkhihinchihihiebbgadcbbidcbihkcbbEranaqmEfadbdaBbaeaeac",
    "bideaBhpeaBGlzCTqBvbadbbababaeabbbhdababababababababababababababababababababababababababa",
    "bababababababababababababababababababababababbhabaeamBlbafaBTWdababababababababababababab",
    "abababababababababatabababababababababababababcFdababababababcbababababababababababababab",
    "abababababababababababababababababjbabacababababaeabacabcbabababababababababafafababababa",
    "bababaeabacadabababababawcbabcBFpBqbngDbBEAigmeBOzzBVhBnFgBjFzkbobgbbRjaccbBpbiBXlByEvvEG",
    "oBfBGJwBfBMMkzBagbrBazBadbabgbkBazBazBazBazBazBazBazBazBaBbBcybfBaybfBaybfBaybfBaybfbaCSy",
    "jbtgfKbCjDHsBh"]),
  (["numeric", "nu"], unpack [
    "BwjCIojbbFbjHqjPwjEojEojEojEojEojEojEojEojEojDsjEojCsjKsjCsjCTqjBmjLojEyjGkjgjHajDijFejgj",
    "CAEojBAcjBmjHqjwjDijPqjBFMcjCCkjDFyjgjBEqjEyjCijFojKsjNejEojOkjDyjgtCyjQgjDyjZmjDijJmjCsj",
    "QgjYYgjDMcjDijFejUojBKDyjECqBxDNcjQgjTijJnjBGvjHBaj"]),
  (["oletter", "le"], unpack [
    "RbaedIaaBkgglBaabaFdaSqaEoBaeeBsBqBjbbDubapbhbkccaqabBdBdDklayBgjbeafveajadaxyhkfxbfrBpCg",
    "CbdasahjppehcbcvbgbadddaqanbbcobkaifebcvbgbbbbbbBfdbatcqibcbvbgbbbedasapbxalhcbcvbgbbbeda",
    "BebbcparabfdcbddbbabbdbdcdlwaCahbcbwbpdaBaccacbBeaehbcbwbjbedaBfbbbpbribcbBocaqafcicyffrd",
    "xbibacgCgBvbbmgCgbbabebxbabjbbjacebavdBgaClhbBjBbeElBquaqfeddadbhcemmaCnBqcMtbdcgbabdcBob",
    "dcBgbdcgbabdcobCebdcCoBlpEjXvcqbzfCwdkhrnsorombcpBzBjaeaCpDkhecBhbafCrkBeBxBdcelBrezCcwjC",
    "aDeaDpBurhCcBdnbkBrBaBjBpckBjsBqccBpdbfbbdaBPqdCtccdEKtCdhaqwjgbgbgbgbgbgbgbgDcaSbczihece",
    "eDhgcbDlbdfBqbDprBfBwpTsJTnCmBGUeCpBtcKidpkbCoaqaBgDbBniEaagaDzadgbcbdbwBdBzoBxCkfdabblBb",
    "kwzBchBuBcaqebjkebBoxcbhuwdadBxbadbcecabaycckhcmfcfcfjgbgFpBiBdQNrmweBwMNcObcEbCpabjbmbeb",
    "abbbbbEdBhNysClcCbBolEmebFeEbCdcBedfcfcfccBjlbzbsbbbocnBiEsCrCaKhBcdBwBvBfnBdfBlkBdcBjehb",
    "eEsCzDuBniBzDoBzmLyjvkhzbEvfcabBrbbdacwkwjBeCnsbbkvkzCsCdgbCmapdbcbBcBqBcdBcBjhbBbBbCbkvk",
    "snrEgCuHbBjBmfBfaKmBpgbqcChBckaivBqrBuuBbwmCaCfbcanBsBgyBaBjBdacaiBidamBvodvabaBjrbytbClg",
    "babdbobjhBuBmhcbcvbgbbbedasameBejbacabBlbazabaBsCasducBeBvubbaHcBuBpdBkBvuaChBqnaCtBaBlgH",
    "dBrIdhcachbbbxpabaDqhcBmqabaBcakBnhavalBttasCuHrBgBfibBkraBxBdEigbbbBlvazfbbbBfoaMpspabmb",
    "BhEuaDbBJlDyEgrHnDXkDspBPfrfzFXqfWkKDdBdCPuVwhBerDarBdsBvqdBfufsQqBsPnCwfaComCmbbaBcJBziB",
    "VpBpjNFrdbgbbbLepaBdccaodiPfDKuEcfmdihjNBcaThBskgqaMjBdsBrSqBbIuBdcaTbgbdbbbobHoFeaBUidbB",
    "abbbacabjbdbabagaeabababcbbbacabababababbbacdbgbdbdbabjbqfcbebqGOaCLFbBgGDtgIncINpoLBkpXx",
    "DQwUvCFyHHyfGFf"]),
  (["scontinue", "sc"], unpack ["BsbmaBYoaGsbSwaGBxafaDBebGAuaDAAwbbaBdbBdbdacakaGmbmaCva"]),
  (["sep", "se"], unpack ["FdaLZmb"]),
  (["sp"], unpack ["jabbtaExaIHjaDPnkBkaBvaFXwa"]),
  (["sterm", "st"], unpack [
    "BhaBdaCAbaFrcGyaBrcJmaCjabadbLhbCPwbBEkaebBDtaHqbHwafaMcbNqdGgbkbcbBdcHfbCnbBKubjcFGuanaw",
    "bQnaBSHwaKkbItadaOsbDibDraFwbFrcFobJpaBFFmbGnaBdaCnaEDwbBXdeBsdHhbEndExcEzbgaqbDkbbbEeaLm",
    "bEnbOjbfoEbbJpcTxabaJrbDjbQebBAqbCwbBCMbbFdaCnblaVhbLkaBDOgaLIma"]),
  (["upper", "up"], unpack [
    "CnzDxwbgBhabababababababababababababababababababababababababababacabababababababacabababa",
    "babababababababababababababababababababbbabadbbabbbccdbbbcdbbbbababbbacabbbcbabbdahbbbbbb",
    "abababababababacababababababababacbbabcbababababababababababababababababababababababababa",
    "babababahbbbcabdbabababaLdabadaiagabcbabbbqbiBjaccdabababababababababababafacabbcByBwabab",
    "ababababababababababababababajabababababababababababababababababababababababababababbbaba",
    "babababacabababababababababababababababababababababababababababababababababababababababab",
    "abababababababacBlEHdBlbafaBBuDhDGlaOkabababababababababababababababababababababababababa",
    "babababababababababababababababababababababababababababababababababababababababababababab",
    "ababababajabababababababababababababababababababababababababababababababababababababababa",
    "bababababababababajhifkhihiflabababaihyhihihieleldmeleKbaeadccccadegabababdcdkbfaBaptaBFm",
    "zCSuBvBwabccabababdbacaicbabababababababababababababababababababababababababababababababa",
    "bababababababababababababababababaiabaeaBTYjababababababababababababababababababababababa",
    "tabababababababababababababaFfababababababadababababababababababababababababababababababa",
    "babababababababakababbbabababaeabacabadababababababababababebebabababababababdbabbdafabab",
    "abayaBHAhzBUzBnFgBjGakbobgbbCQcByGbvEGoBfBGJwBfBMMqzBazBazBaabbcacbcdbhBazBabbdchbgBbbbdb",
    "ebadgBbzBazBazBazBazBazBeyBhyBhyBhyBhyBhaGNlBhDBizgzgz"])]

def find? (classes : BreakClasses) (name : String) : Option Ranges :=
  (List.find? (fun c => c.1.contains name) classes).map (·.2)

end BreakClasses

end Overseer.Text.Unicode
