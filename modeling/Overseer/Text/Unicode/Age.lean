import Overseer.Text.Ranges

/-!
The versions of Unicode up to 16.0, and the code points that each of them added.
-/

namespace Overseer.Text.Unicode

structure Version where
  names : List String
  added : Ranges

namespace Version

def all : List Version := [
  ⟨["1.1", "v11"], unpack [
    "aTheBdCeDkhBubjwCrBabsbeadafgbabtbBrbgdababababrnlbCnblbBojCacbcbdBbchcbCdBlcgbBmbaBmjbim",
    "BafexaoadabzfsnncCtcebobBdcjTzcbCacrcedyqcbhcbcvbgbaddcabgcbccjaebbecuhacfebcvbgbbbbbbcab",
    "eebccldbahomcbgbabcbvbgbbbecjbcbccapafjrcbhcbcvbgbbcdchdbccibebbcekrbbfdcbddbbabbdbdcdhbc",
    "eedcbdjaplocbhbcbwbjbeegbcbdhbjbejsbbhbcbwbjbeegbcbdhbhabbejsbbhbcbwbpefccbdjaibejFpCfeBc",
    "BlbbacbbacagdbgbcbabacbbmbccebabfcjcbRiBlkBmeaeDlfCpfDdEOkFyfDlgvcfcBlcfchbabababBecCabob",
    "ncfbsccbibBubwBjgdBarkBlrBeCeBaBvnDmvJhoabEqFdBkBbkvFivFtkDbqtgDhFpdbdcBbbBibabddabgcgoBe",
    "dxbnDDhCdhabDfefcDpgBneDpbpDsBcdBjBcBbdBxpleBubEoeDucBeJWbBEXxYJqJXtIcgmegybebabbbbbEdBhO",
    "aqClcCbBolBkdmuejbsbdecbabFecabDpcDpdfcfcfccdgbgoc"]⟩,
  ⟨["2.0", "v20"], unpack [
    "CCvqbmuaDMxCtbBghBaefbabudgbaFQnaUhaCATwQNrEIFybDSYobDSYobDSYobDSYobDSYobDSYobDSYobDSYobD",
    "SYobDSYobDSYobDSYobDSYoHLXh"]⟩,
  ⟨["2.1", "v21"], unpack ["MJsaDGOta"]⟩,
  ⟨["3.0", "v30"], unpack [
    "TidBehcrEneBxakeDjitaEmadabababaBeamaCoamaBqbcdDobGaaHscDubfapaBqebnbBddBaCbBwCFhbbrdxbib",
    "acgdaefbabhscOjaBraxchabcbocaBwBhbebbbgddgzQggbCkbabdcgbabdcBmbabdcBebabdcgbabdcgbgbwbBeb",
    "abdcgbBmbsgBbBjDgmYfjBcdDcFnDodjwobjgDjiBpCWbayfDrcBybDhbCuaDziKjaErabBdFibRphBhaDibPiJvC",
    "CezbDkmIfBalCicdaNpxWmJTdBFEgBSudrcpblbcbaBGScaBVvc"]⟩,
  ⟨["3.1", "v31"], unpack [
    "BMybDQQcBfBXwBebdmBaGzBlcBlCZDqJlkBmdGxVaDgbCsbbcacbcdblbabdbbbCmbdchbgbBbbdbebadgbMzeLde",
    "BxPDwCLEsBETdUvBPCQtaBeDr"]⟩,
  ⟨["3.2", "v32"], unpack [
    "UyaLqatmEabBcaFrbCfbcbcbBxpNmbMjaDNhbCHjmbglwjtmmbcbbDIxageeahenaCkbBygDeoGmlJinEuaBeBzKy",
    "tFvjDkhwbDmlcjIonDmBbepJwTrBZncDjbibDqaJgpDdoDdoBRDibqamadaBGJaCgBJdadpCbbBsaJbb"]⟩,
  ⟨["4.0", "v40"], unpack [
    "UzascEpbClqDchfcFveTwdjiCmcFtbpaBtcBdcQuaHcaCpabaFgaDgcnaCpaChaEzhHlbEFnasjKcBcdleleadBpc",
    "eEdBfBDoEdBCpbIwaZjbLqaKqbEmhobBRanCRnbBxaBrbDadGldDvbBfaJToClCOQvaCvbQxlbzbsbbbocnBiEsfc",
    "eBsdiWeBdbaFebBmDbcjBGwfcabBrbbdacaCYUiDiNyaBTKDaJf"]⟩,
  ⟨["4.1", "v41"], unpack [
    "VvkKseGddJmbGoaBicCpasaCgfJhBdUhaDcaStaBvaBMnbLjbbaKgaClaClaBnaBfaBfaBfapaBnaxbBfzCGcBpgz",
    "gjebBgBbcbBGmDjZhbbgBxeBddCbaDcapaYukWaaDxbskfpKkgBGhfJcBubBuBhEcoBskCbjaqwjgbgbgbgbgbgbg",
    "bgBhxebBJupGsaBPItvCTowIzBrBFEaEbBFqjBFaCwUnBjenCIsdbbfhbcbBaeceiiiCXPvCrBRab"]⟩,
  ⟨["5.0", "v50"], unpack [
    "WgnLncMzaBqfqdGkaTxCgOubbbBHibnbFIjCxeBsWlgBzbBCudDpbCbaXblBBmaKqdBGjgfdMemhdBULjdfbLaCdB",
    "KOmzfaIRgBHuFpDundCOGirBQub"]⟩,
  ⟨["5.1", "v51"], unpack [
    "BHwdcbDjaHbaFkpIseleBgeLqrTdbIoaBjaHyaBdbEeaEeaBabibuhHhagaBdbmfdgSxbDtadcCzafacahcefBaCl",
    "ebDBeaBBxBqdlCsCddodByMtBbGzdDmfNsaFjaDqaCbdBYaavjddKeaBfdBFfeeBodeKucbcefNqBfydcsBDkaGgt",
    "BPPohBZoLnuBfcriBbFbecEcEgeEyCqjlBmDflaGeCcjncjcdBFSucBHplCaBtFaBcdBwCKdzfaCXSjaLRqBreDv"]⟩,
  ⟨["5.2", "v52"], unpack [
    "BYqbBCcBtcoHlaCzagaBjbEyaCFpdHldHgeCqeDefTsaYgiVoCrGybBuaCrCkbBcckgjgnVaBiKgaBAucFvcCcaXi",
    "aBArbBdcejbsbaexDjaBNheKsanbEdgMhaBOclBPLshBXkBvQaDjMajGkBbDwBcdCzbkebEyBbeCoyeIqBtcjQOkw",
    "eBwNBbcFGcvbiHebMmBfEyCbdBccBafhEyCuUpBeTtCnLVqBPeCTNdkfBecalabacadadeiahazabbcakdcaEhapB",
    "hoiCQLjGDo"]⟩,
  ⟨["6.0", "v60"], unpack [
    "BYsbJoaCkaSmBbcaIlbtagbBbeTmfQraqataWbdCvbBIobDEnBzidToaZohBcaBFjkBCcatabdBdaebBcaBjabaec",
    "jbCacyaoaobCDkaoaBPocBSEnbLnbbbojDcaBDufcfcfjgbgBEMtpHRiCzeBdBHEeVwBALbbYMgocncoboDcabkba",
    "bbbcbcfhbgbjgibacbbjebbjCxzbbBvivbGsBgpfbCrdtmBkbevqpCkbabGzbddCjsxFrebpbcbabababcbfcdbac",
    "dblekBwCrCgElCUQmIn"]⟩,
  ⟨["6.1", "v61"], unpack [
    "CCtaEmaZrabkCdBaTdaBMrbStafaBvcEBbcmfJwhBrdECqabaBYqbBzafaCebHujBRAeaCNnhBjaJibwaCzbBCowB",
    "DZzbFUuCdgbCRoyhjgCabnCiCuhjBTuCdijBHKoCqlBuqqBVWidbBabbbacabjbdbabagaeabababcbbbacababab",
    "ababbbacdbgbdbdbabjbqfcbebqCabYibBLsdHgaqadabababadagbeabbea"]⟩,
  ⟨["6.2", "v62"], unpack ["MKga"]⟩,
  ⟨["6.3", "v63"], unpack ["CIeaJYvd"]⟩,
  ⟨["7.0", "v70"], unpack [
    "BIlaQihDpbEoaZralfCyaEqahaYpaBzaCyaExaIujDKrhVcbPloVxbJdoBBhcBFqgBDtaBQickzcBfcBhdlbhXugB",
    "TOvfJmllccbCraSuBeEvdGuBvebBFIvgBHdbtaMhBbBjaBwBqOzBniBzlaFoLyjvkhJoCkiiRwBfBgBmelFhrhdmg",
    "BVjaIaBmDiamagtlrbBqEkCgfjhcbhcbcvbgbbbecicbccjafgcgdeKhCtijGkCbcrCcCqljWkDemaRgCeDFiBpHu",
    "lfaBALfBebjebDsBdcfkCrkjbgbufsBEMaEcfmdihjchQKyHocpCZwaBgvvbUmljaCsawlBlafdflrgCtabaHaaeb",
    "ClbegBdrbBobDhCsbnBvCsjqmddFkDgBrleCdijgBniBd"]⟩,
  ⟨["8.0", "v80"], unpack [
    "DHrbBuaUnaNoaKaaCMvacfEVoaHvbDYedBRWviCOuaJgaBifMmbXmdmDbBFFqbEBgsbbfeHgbcpcBtYqBynByhfBV",
    "ddoeGegbabdbobkDiaDbaYjtLezdoepERpaIwHnLQqWkCAWlkCHzZbpeboJHdcDabDbeBkhJvaCxeJjbFjaWdiDze",
    "ChaCUClINp"]⟩,
  ⟨["9.0", "v90"], unpack [
    "DHuhwoBJpaHyaecbgxcFRziOgaCHbdDXcbBTZlaKsaBHQdbBEvBjeBjFAoaRhDlbabaTumCCxibBsbnkBcdBfcvbn",
    "BFMvaBfJBotBDaBGFlgbqcgbbbeDIzCwfjebDDbrFmaBFyaBpaLobBhcVafbhiaclbleoBmm"]⟩,
  ⟨["10.0", "v100"], unpack [
    "DEmkPlbJsfTsaCgbFYwaJudBBhaBFzaCZaaYceBCmaBPXnuBLPicIQqCtiBzcwbeXhgbbbBrdabbbiijBFGpaYHkK",
    "yDdPfYAefBRpbBibTzltaihbbzasmBmfCewDCPdLBk"]⟩,
  ⟨["11.0", "v110"], unpack [
    "CAyaBnaDyaUfcIdaLmaEpaPhaExaENraBOhBqccFRmcwyeoWpeBCiaBPYheCYhaibMmbBKVcbsaBAtBnijRmBniBp",
    "OhaEocTgaLeaBAxaIvChXlaBBefbbbBkbbbfhjLyyBEApDmJPieBCJutEwgJLwCpBScaCEzaIldOicBcecddabdyk",
    "njhbBkyDsn"]⟩,
  ⟨["12.0", "v120"], unpack [
    "EStaUgacacabfeahahbcanaFKhaFPuaCbaWtaBTZmfceBJrbBMBgwBRkaXcaBCphcBtckGdbBZmBxnaHQuiWJkfea",
    "BviDmbJCwfPRccrdSAqBsdncjebOeCffaCJzaBKnCiBPeaCBgaBkaIvlLdcBvaBxajaBpfdbkfdhccBwDfBcdecfc",
    "nf"]⟩,
  ⟨["12.1", "v121"], unpack ["TIda"]⟩,
  ⟨["13.0", "v130"], unpack [
    "DIcjZdaQoaEuaFAjbGJuaBAucBHoeKPijBFDgmCYsdBqbCbaBFvdBGQqaEWxBpbccbJuBbOpaFebZaafbBTmgcach",
    "bbbBdbbcljjCKkaBEJralbKFxSoBqiBLWucDpcCjaBYubBjbQtbDmaDxaebBqbgcBdaGmaodpshgjcngBpFqbCcBl",
    "jCMSjgBHTqHHy"]⟩,
  ⟨["14.0", "v140"], unpack [
    "CIfaWwBebbghvaskBHpaBgaExaDWhahajaJfaBAnnEvaBwbYlaBBhaEIoaBvaTfkBRAtcCYibobbabeycBFTdaOrp",
    "ExaBubCVgkbobgbbbkbobgbbRjfbBpbiCXxzIwfCyaCGsaFegBHppHWyDuWDxDabjBAEwdbgbbLcdLIbBtcwjElVd",
    "bEYvBeBHxBeBZdgbdbbboFQkcKmaPcaDeaGsbBsdkdicrcghigCNCpbGEvd"]⟩,
  ⟨["15.0", "v150"], unpack [
    "EXnaSgaDTAkcBFzcDIcjBNaqbBodBbHXdajBcBVHkaBiaMRatERhfKbCjBhaBPwBpGUcaFvceeDlaZrcpbBkclcba",
    "obkbmaobCTHoaBIWsGFf"]⟩,
  ⟨["15.1", "v151"], unpack ["SEmdTbaKEIqXx"]⟩,
  ⟨["16.0", "v160"], unpack [
    "DGpaHCgbBvaKfbCWycFFebBSQvcmcBJOlBzCTwBldBcibLucCdaBSljbacabBlbjbacabdbjbbibBCvtBVwBhojBH",
    "gaHYzFXqKZtCfEOkCfLYjaXWiJpgQtIToBqeaHCcjebRnafaBuahavacajaIrBk"]⟩]

def upTo? (name : String) : Option (List Version) :=
  let (before, rest) := all.span fun v => !v.names.contains name
  rest.head?.map fun v => before ++ [v]

end Version

end Overseer.Text.Unicode
