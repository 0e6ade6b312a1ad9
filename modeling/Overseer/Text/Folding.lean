import Overseer.Text.Ranges

/-!
Characters that differ in case only, after the simple case folding of Unicode 16.0. They form
cycles: each of them leads to the next, and the last one back to the first.
-/

namespace Overseer.Text

/-- The numbers of a packed table by twos: the gap to the next member of a cycle, and the step from
it to its successor, twice as large forwards and one less than that backwards. -/
def caseStepsFrom (place : Nat) : List Nat → List (Nat × Nat)
  | gap :: step :: rest =>
      let n := place + gap
      let next := if step % 2 = 0 then n + step / 2 else n - (step + 1) / 2
      (n, next) :: caseStepsFrom (n + 1) rest
  | _ => []

def caseSteps : Array (Nat × Nat) := (caseStepsFrom 0 (packedNumbers [
  "CnCmaCmaCmaCmaCmaCmaCmaCmaCmaCmaCmaCmaCmaCmaCmaCmaCmaCmaCmaCmaCmaCmaCmaCmaCmaCmgClaClaClaClaCl",
  "aClaClaClaClaClaYUwaClaClaClaClaClaClaClaUqaClaClaClaClaClaClaClCgCFekCmaCmaCmaCmaCmaCmaCmaCma",
  "CmaCmaCmaCmaCmaCmaCmaCmaCmaCmaCmaCmaCmaCmaCmbCmaCmaCmaCmaCmaCmaCmaWNuaClaClaClaClaClaYLoaClaCl",
  "aClaClaClaClaClaClaClaClaClaClaClaClaClaClaClbClaClaClaClaClaClaClaJiacabacabacabacabacabacaba",
  "cabacabacabacabacabacabacabacabacabacabacabacabacabacabacabacabacabacabccabacabacabbcabacabaca",
  "bacabacabacabacabacabbcabacabacabacabacabacabacabacabacabacabacabacabacabacabacabacabacabacaba",
  "cabacabacabacabacabaJhacabacabacabaXbaPaaQeacabacabaPwacabaPuaPuacabbGcaPoaPqacabaPuaPyaHmaQga",
  "QcacabaMoaEVXyaQgaQkaKaaQmacabacabacabaQuacabaQuccabaQuacabaQsaQsacabacabaQwacabccabbEiecacada",
  "cacadacacadacabacabacabacabacabacabacabacabaGbacabacabacabacabacabacabacabacabacabbcacadacabaH",
  "laEhacabacabacabacabacabacabacabacabacabacabacabacabacabacabacabacabacabacabacabacabaJzbcabaca",
  "bacabacabacabacabacabacabacabgBFYkacabaMnaBFYeaBFZyaBFZyacabaOzaFiaFmacabacabacabacabacabaBFXm",
  "aBFXgaBFXkaQdaPvbPtaPtbPnbPpaEVFidPtaEVFabPxaEVHeaEVCiaEVEmbQbaQfaEVEmaBFUkaEVEgcQfbBFUwaQjcQl",
  "hBFTecQtbEVEkaQtdEVCmaQtaFhaQraQraFlfQvkEVAwaEVAqGkGmBqcabacabccabdKaaKaaKabIygCybCwaCwaCwbEyb",
  "EwaEwaVKoaCmaCmaCmaCmaCmaCmaCmaCmaCmaCmaCmaCmaCmaCmaCmaCmaCmbCkaCmaCmaCmaCmaCmaCmaCmaCmaCxaCva",
  "CvaCvaVJiaClaCiaClaClaEyaClaClaByaVFuaEeaClaCHpaClaClaClaBsaDsacaClaClaClaBeaClaClaWGgaClaClaE",
  "xaEvaEvaqaEtaCsdDpaEdapacabacabacabacabacabacabacabacabacabacabacabacabaGpaGdaoaIxaHbaHjbcaban",
  "acabbJzaJzaJzaGeaGeaGeaGeaGeaGeaGeaGeaGeaGeaGeaGeaGeaGeaGeaGeaCmaCmaCmaCmaCmaCmaCmaCmaCmaCmaCm",
  "aCmaCmaCmaCmaCmaCmaCmaCmaCmaCmaCmaCmaCmaCmaCmaCmaCmaCmaCmaCmaCmaClaClaSKqaClaSKoaClaClaClaClaC",
  "laClaClaClaClaSJwaClaClaSJsaSJsaClaClaClaClaClaClaClaSJgaClaClaClaClaClaGdaGdaGdaGdaGdaGdaGdaG",
  "daGdaGdaGdaGdaGdaGdaGdaGdacabacaSHkacabacabacabacabacabacabacabacabacabacabacabacabacabacabaca",
  "bicabacabacabacabacabacabacabacabacabacabacabacabacabacabacabacabacabacabacabacabacabacabacaba",
  "cabacabacabacabaBeacabacabacabacabacabacabacabaBdacabacabacabacabacabacabacabacabacabacabacaba",
  "cabacabacabacabacabacabacabacabacabacabacabacabacabacabacabacabacabacabacabacabacabacabacabaca",
  "bacabacabacabacabacabacabacabacabacabacabacabacabacabbDsaDsaDsaDsaDsaDsaDsaDsaDsaDsaDsaDsaDsaD",
  "saDsaDsaDsaDsaDsaDsaDsaDsaDsaDsaDsaDsaDsaDsaDsaDsaDsaDsaDsaDsaDsaDsaDsaDskDraDraDraDraDraDraDr",
  "aDraDraDraDraDraDraDraDraDraDraDraDraDraDraDraDraDraDraDraDraDraDraDraDraDraDraDraDraDraDraDrE",
  "FhVMuaVMuaVMuaVMuaVMuaVMuaVMuaVMuaVMuaVMuaVMuaVMuaVMuaVMuaVMuaVMuaVMuaVMuaVMuaVMuaVMuaVMuaVMua",
  "VMuaVMuaVMuaVMuaVMuaVMuaVMuaVMuaVMuaVMuaVMuaVMuaVMuaVMuaVMubVMufVMucIXkaIXkaIXkaIXkaIXkaIXkaIX",
  "kaIXkaIXkaIXkaIXkaIXkaIXkaIXkaIXkaIXkaIXkaIXkaIXkaIXkaIXkaIXkaIXkaIXkaIXkaIXkaIXkaIXkaIXkaIXka",
  "IXkaIXkaIXkaIXkaIXkaIXkaIXkaIXkaIXkaIXkaIXkaIXkaIXkcIXkaIXkaIXkZwEKZoaEKZoaEKZoaEKZoaEKZoaEKZo",
  "aEKZoaEKZoaEKZoaEKZoaEKZoaEKZoaEKZoaEKZoaEKZoaEKZoaEKZoaEKZoaEKZoaEKZoaEKZoaEKZoaEKZoaEKZoaEKZ",
  "oaEKZoaEKZoaEKZoaEKZoaEKZoaEKZoaEKZoaEKZoaEKZoaEKZoaEKZoaEKZoaEKZoaEKZoaEKZoaEKZoaEKZoaEKZoaEK",
  "ZoaEKZoaEKZoaEKZoaEKZoaEKZoaEKZoaEKZoaEKZoaEKZoaEKZoaEKZoaEKZoaEKZoaEKZoaEKZoaEKZoaEKZoaEKZoaE",
  "KZoaEKZoaEKZoaEKZoaEKZoaEKZoaEKZoaEKZoaEKZoaEKZoaEKZoaEKZoaEKZoaEKZoaEKZoaEKZoaEKZoaEKZoaqaqaq",
  "aqaqaqcpapapapapapDFuSNbaSMzaSMhaSMdacaSMfaSLraSHlaEAIuacabfIXjaIXjaIXjaIXjaIXjaIXjaIXjaIXjaIX",
  "jaIXjaIXjaIXjaIXjaIXjaIXjaIXjaIXjaIXjaIXjaIXjaIXjaIXjaIXjaIXjaIXjaIXjaIXjaIXjaIXjaIXjaIXjaIXja",
  "IXjaIXjaIXjaIXjaIXjaIXjaIXjaIXjaIXjaIXjaIXjcIXjaIXjaIXjHdEANwdLHkqEARwEjcabacabacabacabacabaca",
  "bacabacabacabacabacabacabacabacabacabacabacabacabacabacabacabacabacabacabacabacabacabacabacaba",
  "cabacabacabacabacabacabacabacabacabacabacabacabacabacabacabacabacabacabacabacaEmacabacabacabac",
  "abacabacabacabacabacabacabacabacabacabacabacabacabacabacabacabacabacabacabacabacabacabacabfEnc",
  "WNtbcabacabacabacabacabacabacabacabacabacabacabacabacabacabacabacabacabacabacabacabacabacabaca",
  "bacabacabacabacabacabacabacabacabacabacabacabacabacabacabacabacabacabacabacabacabacabacabacaba",
  "cabacabaqaqaqaqaqaqaqaqapapapapapapapapaqaqaqaqaqaqcpapapapapapcqaqaqaqaqaqaqaqapapapapapapapa",
  "paqaqaqaqaqaqaqaqapapapapapapapapaqaqaqaqaqaqcpapapapapapdqbqbqbqbpbpbpbpaqaqaqaqaqaqaqaqapapa",
  "papapapapapaFsaFsaGqaGqaGqaGqaHsaHsaJwaJwaIqaIqaJsaJscqaqaqaqaqaqaqaqapapapapapapapapaqaqaqaqa",
  "qaqaqaqapapapapapapapapaqaqaqaqaqaqaqaqapapapapapapapapaqaqbsepapaFraFrarbVOreseGpaGpaGpaGpard",
  "qaqbVKnepapaHraHreqaqbVJhbocpapaIpaIpangseJvaJvaJraJrarLlWIrdYXhaYNzgCeBbCdrBgaBgaBgaBgaBgaBga",
  "BgaBgaBgaBgaBgaBgaBgaBgaBgaBgaBfaBfaBfaBfaBfaBfaBfaBfaBfaBfaBfaBfaBfaBfaBfaBfdcabBFlCaaCaaCaaC",
  "aaCaaCaaCaaCaaCaaCaaCaaCaaCaaCaaCaaCaaCaaCaaCaaCaaCaaCaaCaaCaaCaaCaaBzaBzaBzaBzaBzaBzaBzaBzaBz",
  "aBzaBzaBzaBzaBzaBzaBzaBzaBzaBzaBzaBzaBzaBzaBzaBzaBzCRuDsaDsaDsaDsaDsaDsaDsaDsaDsaDsaDsaDsaDsaD",
  "saDsaDsaDsaDsaDsaDsaDsaDsaDsaDsaDsaDsaDsaDsaDsaDsaDsaDsaDsaDsaDsaDsaDsaDsaDsaDsaDsaDsaDsaDsaDs",
  "aDsaDsaDsaDraDraDraDraDraDraDraDraDraDraDraDraDraDraDraDraDraDraDraDraDraDraDraDraDraDraDraDra",
  "DraDraDraDraDraDraDraDraDraDraDraDraDraDraDraDraDraDraDraDracabaBFUjaLHjaBFTdaBFYjaBFYdacabaca",
  "bacabaBFXfaBFUvaBFXlaBFXjbcabbcabhBFZxaBFZxacabacabacabacabacabacabacabacabacabacabacabacabaca",
  "bacabacabacabacabacabacabacabacabacabacabacabacabacabacabacabacabacabacabacabacabacabacabacaba",
  "cabacabacabacabacabacabacabacabacabacabacabacabacabacabhcabacabdcabmVMtaVMtaVMtaVMtaVMtaVMtaVM",
  "taVMtaVMtaVMtaVMtaVMtaVMtaVMtaVMtaVMtaVMtaVMtaVMtaVMtaVMtaVMtaVMtaVMtaVMtaVMtaVMtaVMtaVMtaVMta",
  "VMtaVMtaVMtaVMtaVMtaVMtaVMtaVMtbVMtfVMtBTWccabacabacabacabacabacaEAIvacabacabacabacabacabacaba",
  "cabacabacabacabacabacabacabacabacabacabacabscabacabacabacabacabacabacabacabacabacabacabacabaca",
  "bacabFecabacabacabacabacabacabacabccabacabacabacabacabacabacabacabacabacabacabacabacabacabacab",
  "acabacabacabacabacabacabacabacabacabacabacabacabacabacabacabacabjcabacabaEANvacabacabacabacaba",
  "cabdcabaEVChccabacabaDsbcabacabacabacabacabacabacabacabacabacabaEVElaEVFhaEVEzaEVEfaEVElbEVApa",
  "EVClaEVAvaCTkacabacabacabacabacabacabacabacabaDraEVEjaEARvacabacabaEVHdacabccabecabacabacabaEV",
  "XxycabBHcCTjBcEKZnaEKZnaEKZnaEKZnaEKZnaEKZnaEKZnaEKZnaEKZnaEKZnaEKZnaEKZnaEKZnaEKZnaEKZnaEKZna",
  "EKZnaEKZnaEKZnaEKZnaEKZnaEKZnaEKZnaEKZnaEKZnaEKZnaEKZnaEKZnaEKZnaEKZnaEKZnaEKZnaEKZnaEKZnaEKZn",
  "aEKZnaEKZnaEKZnaEKZnaEKZnaEKZnaEKZnaEKZnaEKZnaEKZnaEKZnaEKZnaEKZnaEKZnaEKZnaEKZnaEKZnaEKZnaEKZ",
  "naEKZnaEKZnaEKZnaEKZnaEKZnaEKZnaEKZnaEKZnaEKZnaEKZnaEKZnaEKZnaEKZnaEKZnaEKZnaEKZnaEKZnaEKZnaEK",
  "ZnaEKZnaEKZnaEKZnaEKZnaEKZnaEKZnaEKZnBEAncabBOkCmaCmaCmaCmaCmaCmaCmaCmaCmaCmaCmaCmaCmaCmaCmaCm",
  "aCmaCmaCmaCmaCmaCmaCmaCmaCmaCmgClaClaClaClaClaClaClaClaClaClaClaClaClaClaClaClaClaClaClaClaCla",
  "ClaClaClaClaClBTtDcaDcaDcaDcaDcaDcaDcaDcaDcaDcaDcaDcaDcaDcaDcaDcaDcaDcaDcaDcaDcaDcaDcaDcaDcaDc",
  "aDcaDcaDcaDcaDcaDcaDcaDcaDcaDcaDcaDcaDcaDcaDbaDbaDbaDbaDbaDbaDbaDbaDbaDbaDbaDbaDbaDbaDbaDbaDba",
  "DbaDbaDbaDbaDbaDbaDbaDbaDbaDbaDbaDbaDbaDbaDbaDbaDbaDbaDbaDbaDbaDbaDbDsDcaDcaDcaDcaDcaDcaDcaDca",
  "DcaDcaDcaDcaDcaDcaDcaDcaDcaDcaDcaDcaDcaDcaDcaDcaDcaDcaDcaDcaDcaDcaDcaDcaDcaDcaDcaDceDbaDbaDbaD",
  "baDbaDbaDbaDbaDbaDbaDbaDbaDbaDbaDbaDbaDbaDbaDbaDbaDbaDbaDbaDbaDbaDbaDbaDbaDbaDbaDbaDbaDbaDbaDb",
  "aDbEmDaaDaaDaaDaaDaaDaaDaaDaaDaaDaaDabDaaDaaDaaDaaDaaDaaDaaDaaDaaDaaDaaDaaDaaDaaDabDaaDaaDaaDa",
  "aDaaDaaDabDaaDabCzaCzaCzaCzaCzaCzaCzaCzaCzaCzaCzbCzaCzaCzaCzaCzaCzaCzaCzaCzaCzaCzaCzaCzaCzaCzb",
  "CzaCzaCzaCzaCzaCzaCzbCzaCzCOpEyaEyaEyaEyaEyaEyaEyaEyaEyaEyaEyaEyaEyaEyaEyaEyaEyaEyaEyaEyaEyaEy",
  "aEyaEyaEyaEyaEyaEyaEyaEyaEyaEyaEyaEyaEyaEyaEyaEyaEyaEyaEyaEyaEyaEyaEyaEyaEyaEyaEyaEyaEynExaExa",
  "ExaExaExaExaExaExaExaExaExaExaExaExaExaExaExaExaExaExaExaExaExaExaExaExaExaExaExaExaExaExaExaE",
  "xaExaExaExaExaExaExaExaExaExaExaExaExaExaExaExaExaExDpCmaCmaCmaCmaCmaCmaCmaCmaCmaCmaCmaCmaCmaC",
  "maCmaCmaCmaCmaCmaCmaCmaCmkClaClaClaClaClaClaClaClaClaClaClaClaClaClaClaClaClaClaClaClaClaClEFi",
  "CmaCmaCmaCmaCmaCmaCmaCmaCmaCmaCmaCmaCmaCmaCmaCmaCmaCmaCmaCmaCmaCmaCmaCmaCmaCmaCmaCmaCmaCmaCmaC",
  "maClaClaClaClaClaClaClaClaClaClaClaClaClaClaClaClaClaClaClaClaClaClaClaClaClaClaClaClaClaClaCl",
  "aClBGIqCmaCmaCmaCmaCmaCmaCmaCmaCmaCmaCmaCmaCmaCmaCmaCmaCmaCmaCmaCmaCmaCmaCmaCmaCmaCmaCmaCmaCma",
  "CmaCmaCmaClaClaClaClaClaClaClaClaClaClaClaClaClaClaClaClaClaClaClaClaClaClaClaClaClaClaClaClaC",
  "laClaClaClBUKeCqaCqaCqaCqaCqaCqaCqaCqaCqaCqaCqaCqaCqaCqaCqaCqaCqaCqaCqaCqaCqaCqaCqaCqaCqaCqaCq",
  "aCqaCqaCqaCqaCqaCqaCqaCpaCpaCpaCpaCpaCpaCpaCpaCpaCpaCpaCpaCpaCpaCpaCpaCpaCpaCpaCpaCpaCpaCpaCpa",
  "CpaCpaCpaCpaCpaCpaCpaCpaCpaCp"])).toArray

def nextInCase (n : Nat) : Nat :=
  let comesBefore (i : Nat) : Bool := caseSteps[i]?.any fun s => s.1 < n
  match caseSteps[searchFrom comesBefore 0 caseSteps.size]? with
  | some (m, next) => if m = n then next else n
  | none => n

def caseCycleTo (last : Nat) : Nat → Nat → List Nat
  | 0, _ => []
  | fuel + 1, n => if n = last then [n] else n :: caseCycleTo last fuel (nextInCase n)

def caseCycle (n : Nat) : List Nat := caseCycleTo n 4 (nextInCase n)

end Overseer.Text
