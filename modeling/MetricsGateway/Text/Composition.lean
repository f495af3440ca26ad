import MetricsGateway.Text.CodeRuns

/-!
Composed text. Letters with marks are written as one character where there is one, and marks on the
same letter stand in one order. Only characters that composed text may hold are covered.
-/

namespace MetricsGateway.Text

/-- Runs of code points with one class of marks: the class after the letter `k`, then the length. -/
def markClassTable : List String := [
  "k0,300ke6,15ke8,1kdc,4ke8,1kd8,1kdc,5kca,2kdc,4kca,2kdc,bk1,5kdc,4ke6,akdc,3ke6,3kdc,3ke6,3",
  "kdc,4ke6,1ke8,1kdc,2ke6,1ke9,1kea,2ke9,1kea,2ke9,1ke6,ek0,112ke6,5k0,109kdc,1ke6,4kdc,1ke6,3",
  "kde,1kdc,1ke6,6kdc,6ke6,2kdc,1ke6,2kde,1ke4,1ke6,1ka,1kb,1kc,1kd,1ke,1kf,1k10,1k11,1k12,1k13,2",
  "k14,1k15,1k16,1k0,1k17,1k0,1k18,1k19,1k0,1ke6,1kdc,1k0,1k12,9k0,40ke6,8k1e,1k1f,1k20,1k0,30",
  "k1b,1k1c,1k1d,1k1e,1k1f,1k20,1k21,1k22,1ke6,2kdc,2ke6,5kdc,1ke6,2kdc,1k0,10k23,1k0,65ke6,8k0,1",
  "ke6,4kdc,1ke6,1k0,2ke6,2k0,1kdc,1ke6,2kdc,1k0,23k24,1k0,1eke6,1kdc,1ke6,2kdc,1ke6,2kdc,3ke6,1",
  "kdc,2ke6,1kdc,1ke6,3kdc,1ke6,1kdc,1ke6,1kdc,1ke6,1kdc,1ke6,4k0,9eke6,7kdc,1ke6,1k0,9kdc,1k0,18",
  "ke6,4k0,1ke6,9k0,1ke6,3k0,1ke6,7k0,29kdc,5k0,3ake6,1kdc,3ke6,4k0,2ake6,5kdc,5ke6,fkdc,1ke6,2",
  "kdc,1ke6,2kdc,1ke6,3kdc,3k1b,1k1c,1k1d,1ke6,3kdc,1ke6,2kdc,2ke6,5k0,3ck7,1k0,10k9,1k0,3ke6,1",
  "kdc,1ke6,2k0,67k7,1k0,10k9,1k0,30ke6,3k0,3bk7,2k0,fk9,4k0,6bk7,1k0,10k9,3k0,6ck7,1k0,10k9,8",
  "k0,78k9,3k0,6ck7,1k0,10k9,8k54,1k5b,2k0,64k7,1k0,10k9,8k0,66k9,2k0,10k9,1k0,7ck9,5k0,69k67,2",
  "k9,5k0,9k6b,4k0,6ck76,2k9,1k0,dk7a,4k0,4ckdc,2k0,1bkdc,1k0,1kdc,1k0,1kd8,1k0,37k81,1k82,2k84,6",
  "k82,4k0,2k82,2ke6,2k9,1k0,1ke6,2k0,3ekdc,1k0,70k7,1k0,1k9,2k0,52kdc,1k0,2cfke6,3k0,3b4k9,bk0,15",
  "k9,1k0,9dk9,1k0,ake6,3k0,c9ke4,1k0,8fkde,1ke6,1kdc,5k0,d7ke6,1kdc,1k0,47k9,1k0,14ke6,akdc,1",
  "k0,30ke6,5kdc,6ke6,2kdc,1k0,1kdc,2ke6,2kdc,2ke6,5kdc,1ke6,4k0,65k7,1k0,fk9,1k0,26ke6,1kdc,1",
  "ke6,7k0,36k9,2k0,3ak7,1k0,bk9,ak0,3bk7,4k0,95ke6,3k0,1k1,1kdc,5ke6,2kdc,4ke6,1k0,1k1,7k0,4kdc,1",
  "k0,6ke6,1k0,3ke6,2k0,c6ke6,2kdc,1ke6,7kdc,1ke6,2kea,1kd6,1kdc,1kca,1ke6,25ke8,1ke4,2kdc,1kda,1",
  "ke6,1ke9,1kdc,1ke6,1kdc,2k0,2cfke6,2k1,2ke6,4k1,3ke6,2k0,4ke6,1k0,3k1,2ke6,1kdc,1ke6,1k1,2kdc,4",
  "ke6,14k0,bebke6,4k0,8ck9,1k0,60ke6,20k0,22akda,1ke4,1ke8,1kde,1ke0,2k0,69k8,4k0,75d2ke6,1k0,4",
  "ke6,ak0,20ke6,2k0,50ke6,2k0,114k9,1k0,25k9,4k0,94k9,1k0,1bke6,12k0,39kdc,3k0,25k9,ck0,54k7,1",
  "k0,ck9,1k0,efke6,1k0,1ke6,2kdc,1k0,2ke6,2k0,5ke6,2k0,1ke6,1k0,34k9,bk0,eck9,3k0,4f2ek1a,94",
  "k0,26eke6,7kdc,7ke6,17k0,3b8kdc,83k0,60kdc,1k0,95ke6,ak0,68dkdc,1k0,1ke6,1k0,28ke6,1k1,1kdc,5",
  "k9,1k0,a5ke6,1kdc,5k0,239ke6,ck0,17bke6,2k0,99kdc,2ke6,3kdc,1ke6,1kdc,4k0,31ke6,1kdc,1ke6,1",
  "kdc,1k0,c0k9,1k0,29k9,1k0,ek9,1k0,39k9,1k7,1k0,45ke6,3k0,30k9,3k0,3dk7,1k0,4ck9,1k0,9k7,1k0,6a",
  "k9,1k7,1k0,b2k7,1k9,6k0,4bk7,2k0,10k9,3k0,16ke6,1ak0,c2k9,1k0,3k7,1k0,17ke6,1k0,63k9,1k7,1k0,fb",
  "k9,1k7,1k0,7ek9,1k0,76k9,1k7,1k0,73k9,5k0,109k9,1k7,1k0,102k9,2k0,4k7,1k0,9ck9,1k0,53k9,1k0,12",
  "k9,9k0,49k9,1k0,1a5k9,1k0,102k7,1k0,1k9,2k0,51k9,1k0,4d58k1,5k0,3bke6,7k0,4b9k6,2k0,4cack1,1",
  "k0,14c6kd8,2k1,3k0,3ke2,1kd8,dkdc,8k0,2ke6,5kdc,2k0,1eke6,4k0,94ke6,3k0,dbbke6,8fk0,a1ke6,7",
  "k0,177ke6,12k0,2cke6,4k0,5e0kdc,52k0,22ke6,6k7,1k0,f16b5"]

/-- Characters made of two: after the letter `p` the whole, the letter and the mark. -/
def compositionTable : List String := [
  "pe0,61,300pe1,61,301pe2,61,302pe3,61,303pe4,61,308pe5,61,30ape7,63,327pe8,65,300pe9,65,301",
  "pea,65,302peb,65,308pec,69,300ped,69,301pee,69,302pef,69,308pf1,6e,303pf2,6f,300pf3,6f,301",
  "pf4,6f,302pf5,6f,303pf6,6f,308pf9,75,300pfa,75,301pfb,75,302pfc,75,308pfd,79,301pff,79,308",
  "p101,61,304p103,61,306p105,61,328p107,63,301p109,63,302p10b,63,307p10d,63,30cp10f,64,30c",
  "p113,65,304p115,65,306p117,65,307p119,65,328p11b,65,30cp11d,67,302p11f,67,306p121,67,307",
  "p123,67,327p125,68,302p129,69,303p12b,69,304p12d,69,306p12f,69,328p135,6a,302p137,6b,327",
  "p13a,6c,301p13c,6c,327p13e,6c,30cp144,6e,301p146,6e,327p148,6e,30cp14d,6f,304p14f,6f,306",
  "p151,6f,30bp155,72,301p157,72,327p159,72,30cp15b,73,301p15d,73,302p15f,73,327p161,73,30c",
  "p163,74,327p165,74,30cp169,75,303p16b,75,304p16d,75,306p16f,75,30ap171,75,30bp173,75,328",
  "p175,77,302p177,79,302p17a,7a,301p17c,7a,307p17e,7a,30cp1a1,6f,31bp1b0,75,31bp1ce,61,30c",
  "p1d0,69,30cp1d2,6f,30cp1d4,75,30cp1d6,fc,304p1d8,fc,301p1da,fc,30cp1dc,fc,300p1df,e4,304",
  "p1e1,227,304p1e3,e6,304p1e7,67,30cp1e9,6b,30cp1eb,6f,328p1ed,1eb,304p1ef,292,30cp1f0,6a,30c",
  "p1f5,67,301p1f9,6e,300p1fb,e5,301p1fd,e6,301p1ff,f8,301p201,61,30fp203,61,311p205,65,30f",
  "p207,65,311p209,69,30fp20b,69,311p20d,6f,30fp20f,6f,311p211,72,30fp213,72,311p215,75,30f",
  "p217,75,311p219,73,326p21b,74,326p21f,68,30cp227,61,307p229,65,327p22b,f6,304p22d,f5,304",
  "p22f,6f,307p231,22f,304p233,79,304p390,3ca,301p3ac,3b1,301p3ad,3b5,301p3ae,3b7,301p3af,3b9,301",
  "p3b0,3cb,301p3ca,3b9,308p3cb,3c5,308p3cc,3bf,301p3cd,3c5,301p3ce,3c9,301p439,438,306",
  "p450,435,300p451,435,308p453,433,301p457,456,308p45c,43a,301p45d,438,300p45e,443,306",
  "p477,475,30fp4c2,436,306p4d1,430,306p4d3,430,308p4d7,435,306p4db,4d9,308p4dd,436,308",
  "p4df,437,308p4e3,438,304p4e5,438,308p4e7,43e,308p4eb,4e9,308p4ed,44d,308p4ef,443,304",
  "p4f1,443,308p4f3,443,30bp4f5,447,308p4f9,44b,308p622,627,653p623,627,654p624,648,654",
  "p625,627,655p626,64a,654p6c0,6d5,654p6c2,6c1,654p6d3,6d2,654p929,928,93cp931,930,93c",
  "p934,933,93cp9cb,9c7,9bep9cc,9c7,9d7pb48,b47,b56pb4b,b47,b3epb4c,b47,b57pb94,b92,bd7",
  "pbca,bc6,bbepbcb,bc7,bbepbcc,bc6,bd7pc48,c46,c56pcc0,cbf,cd5pcc7,cc6,cd5pcc8,cc6,cd6",
  "pcca,cc6,cc2pccb,cca,cd5pd4a,d46,d3epd4b,d47,d3epd4c,d46,d57pdda,dd9,dcapddc,dd9,dcf",
  "pddd,ddc,dcapdde,dd9,ddfp1026,1025,102ep1b06,1b05,1b35p1b08,1b07,1b35p1b0a,1b09,1b35",
  "p1b0c,1b0b,1b35p1b0e,1b0d,1b35p1b12,1b11,1b35p1b3b,1b3a,1b35p1b3d,1b3c,1b35p1b40,1b3e,1b35",
  "p1b41,1b3f,1b35p1b43,1b42,1b35p1e01,61,325p1e03,62,307p1e05,62,323p1e07,62,331p1e09,e7,301",
  "p1e0b,64,307p1e0d,64,323p1e0f,64,331p1e11,64,327p1e13,64,32dp1e15,113,300p1e17,113,301",
  "p1e19,65,32dp1e1b,65,330p1e1d,229,306p1e1f,66,307p1e21,67,304p1e23,68,307p1e25,68,323",
  "p1e27,68,308p1e29,68,327p1e2b,68,32ep1e2d,69,330p1e2f,ef,301p1e31,6b,301p1e33,6b,323",
  "p1e35,6b,331p1e37,6c,323p1e39,1e37,304p1e3b,6c,331p1e3d,6c,32dp1e3f,6d,301p1e41,6d,307",
  "p1e43,6d,323p1e45,6e,307p1e47,6e,323p1e49,6e,331p1e4b,6e,32dp1e4d,f5,301p1e4f,f5,308",
  "p1e51,14d,300p1e53,14d,301p1e55,70,301p1e57,70,307p1e59,72,307p1e5b,72,323p1e5d,1e5b,304",
  "p1e5f,72,331p1e61,73,307p1e63,73,323p1e65,15b,307p1e67,161,307p1e69,1e63,307p1e6b,74,307",
  "p1e6d,74,323p1e6f,74,331p1e71,74,32dp1e73,75,324p1e75,75,330p1e77,75,32dp1e79,169,301",
  "p1e7b,16b,308p1e7d,76,303p1e7f,76,323p1e81,77,300p1e83,77,301p1e85,77,308p1e87,77,307",
  "p1e89,77,323p1e8b,78,307p1e8d,78,308p1e8f,79,307p1e91,7a,302p1e93,7a,323p1e95,7a,331",
  "p1e96,68,331p1e97,74,308p1e98,77,30ap1e99,79,30ap1ea1,61,323p1ea3,61,309p1ea5,e2,301",
  "p1ea7,e2,300p1ea9,e2,309p1eab,e2,303p1ead,1ea1,302p1eaf,103,301p1eb1,103,300p1eb3,103,309",
  "p1eb5,103,303p1eb7,1ea1,306p1eb9,65,323p1ebb,65,309p1ebd,65,303p1ebf,ea,301p1ec1,ea,300",
  "p1ec3,ea,309p1ec5,ea,303p1ec7,1eb9,302p1ec9,69,309p1ecb,69,323p1ecd,6f,323p1ecf,6f,309",
  "p1ed1,f4,301p1ed3,f4,300p1ed5,f4,309p1ed7,f4,303p1ed9,1ecd,302p1edb,1a1,301p1edd,1a1,300",
  "p1edf,1a1,309p1ee1,1a1,303p1ee3,1a1,323p1ee5,75,323p1ee7,75,309p1ee9,1b0,301p1eeb,1b0,300",
  "p1eed,1b0,309p1eef,1b0,303p1ef1,1b0,323p1ef3,79,300p1ef5,79,323p1ef7,79,309p1ef9,79,303",
  "p1f00,3b1,313p1f01,3b1,314p1f02,1f00,300p1f03,1f01,300p1f04,1f00,301p1f05,1f01,301",
  "p1f06,1f00,342p1f07,1f01,342p1f10,3b5,313p1f11,3b5,314p1f12,1f10,300p1f13,1f11,300",
  "p1f14,1f10,301p1f15,1f11,301p1f20,3b7,313p1f21,3b7,314p1f22,1f20,300p1f23,1f21,300",
  "p1f24,1f20,301p1f25,1f21,301p1f26,1f20,342p1f27,1f21,342p1f30,3b9,313p1f31,3b9,314",
  "p1f32,1f30,300p1f33,1f31,300p1f34,1f30,301p1f35,1f31,301p1f36,1f30,342p1f37,1f31,342",
  "p1f40,3bf,313p1f41,3bf,314p1f42,1f40,300p1f43,1f41,300p1f44,1f40,301p1f45,1f41,301p1f50,3c5,313",
  "p1f51,3c5,314p1f52,1f50,300p1f53,1f51,300p1f54,1f50,301p1f55,1f51,301p1f56,1f50,342",
  "p1f57,1f51,342p1f60,3c9,313p1f61,3c9,314p1f62,1f60,300p1f63,1f61,300p1f64,1f60,301",
  "p1f65,1f61,301p1f66,1f60,342p1f67,1f61,342p1f70,3b1,300p1f72,3b5,300p1f74,3b7,300p1f76,3b9,300",
  "p1f78,3bf,300p1f7a,3c5,300p1f7c,3c9,300p1fb0,3b1,306p1fb1,3b1,304p1fb6,3b1,342p1fc6,3b7,342",
  "p1fd0,3b9,306p1fd1,3b9,304p1fd2,3ca,300p1fd6,3b9,342p1fd7,3ca,342p1fe0,3c5,306p1fe1,3c5,304",
  "p1fe2,3cb,300p1fe4,3c1,313p1fe5,3c1,314p1fe6,3c5,342p1fe7,3cb,342p1ff6,3c9,342p219a,2190,338",
  "p219b,2192,338p21ae,2194,338p21cd,21d0,338p21ce,21d4,338p21cf,21d2,338p2204,2203,338",
  "p2209,2208,338p220c,220b,338p2224,2223,338p2226,2225,338p2241,223c,338p2244,2243,338",
  "p2247,2245,338p2249,2248,338p2260,3d,338p2262,2261,338p226d,224d,338p226e,3c,338p226f,3e,338",
  "p2270,2264,338p2271,2265,338p2274,2272,338p2275,2273,338p2278,2276,338p2279,2277,338",
  "p2280,227a,338p2281,227b,338p2284,2282,338p2285,2283,338p2288,2286,338p2289,2287,338",
  "p22ac,22a2,338p22ad,22a8,338p22ae,22a9,338p22af,22ab,338p22e0,227c,338p22e1,227d,338",
  "p22e2,2291,338p22e3,2292,338p22ea,22b2,338p22eb,22b3,338p22ec,22b4,338p22ed,22b5,338",
  "p304c,304b,3099p304e,304d,3099p3050,304f,3099p3052,3051,3099p3054,3053,3099p3056,3055,3099",
  "p3058,3057,3099p305a,3059,3099p305c,305b,3099p305e,305d,3099p3060,305f,3099p3062,3061,3099",
  "p3065,3064,3099p3067,3066,3099p3069,3068,3099p3070,306f,3099p3071,306f,309ap3073,3072,3099",
  "p3074,3072,309ap3076,3075,3099p3077,3075,309ap3079,3078,3099p307a,3078,309ap307c,307b,3099",
  "p307d,307b,309ap3094,3046,3099p309e,309d,3099p30ac,30ab,3099p30ae,30ad,3099p30b0,30af,3099",
  "p30b2,30b1,3099p30b4,30b3,3099p30b6,30b5,3099p30b8,30b7,3099p30ba,30b9,3099p30bc,30bb,3099",
  "p30be,30bd,3099p30c0,30bf,3099p30c2,30c1,3099p30c5,30c4,3099p30c7,30c6,3099p30c9,30c8,3099",
  "p30d0,30cf,3099p30d1,30cf,309ap30d3,30d2,3099p30d4,30d2,309ap30d6,30d5,3099p30d7,30d5,309a",
  "p30d9,30d8,3099p30da,30d8,309ap30dc,30db,3099p30dd,30db,309ap30f4,30a6,3099p30f7,30ef,3099",
  "p30f8,30f0,3099p30f9,30f1,3099p30fa,30f2,3099p30fe,30fd,3099p1109a,11099,110ba",
  "p1109c,1109b,110bap110ab,110a5,110bap1112e,11131,11127p1112f,11132,11127p1134b,11347,1133e",
  "p1134c,11347,11357p114bb,114b9,114bap114bc,114b9,114b0p114be,114b9,114bdp115ba,115b8,115af",
  "p115bb,115b9,115afp11938,11935,11930"]

namespace Composition

def classRuns : List (CodeRun Nat) :=
  (TableWord.read markClassTable).map fun w => ⟨w.numbers.getD 1 0, w.numbers.headD 0⟩

/-- The class of a mark; zero for all that is no mark. Marks of different classes do not touch. -/
def classOf (c : Char) : Nat := ((runAt? classRuns c.toNat).map (·.1)).getD 0

def silentClass : Nat := 9

structure Pair where
  whole : Char
  first : Char
  second : Char

def pairs : List Pair :=
  (TableWord.read compositionTable).filterMap fun w =>
    match w.numbers with
    | [a, b, c] => some ⟨Char.ofNat a, Char.ofNat b, Char.ofNat c⟩
    | _ => none

/-- The first syllable of Korean script, and how many vowels and finals its syllables have. -/
def syllableBase : Nat := 0xAC00

def leadBase : Nat := 0x1100

def vowelBase : Nat := 0x1161

def finalBase : Nat := 0x11A7

def vowelCount : Nat := 21

def finalCount : Nat := 28

def leadCount : Nat := 19

def syllableParts? (c : Char) : Option (List Char) :=
  let n := c.toNat - syllableBase
  if syllableBase ≤ c.toNat && n < leadCount * vowelCount * finalCount then
    let final := n % finalCount
    some (Char.ofNat (leadBase + n / (vowelCount * finalCount)) ::
      Char.ofNat (vowelBase + n / finalCount % vowelCount) ::
      (if final = 0 then [] else [Char.ofNat (finalBase + final)]))
  else none

def syllable? (a b : Char) : Option Char :=
  let lead := a.toNat - leadBase
  let vowel := b.toNat - vowelBase
  let blank := a.toNat - syllableBase
  let final := b.toNat - finalBase
  if leadBase ≤ a.toNat && lead < leadCount && vowelBase ≤ b.toNat && vowel < vowelCount then
    some (Char.ofNat (syllableBase + (lead * vowelCount + vowel) * finalCount))
  else if syllableBase ≤ a.toNat && blank < leadCount * vowelCount * finalCount &&
      blank % finalCount = 0 && finalBase < b.toNat && final < finalCount then
    some (Char.ofNat (a.toNat + final))
  else none

/-- How often a character can be taken apart. -/
def depth : Nat := 4

def parts : Nat → Char → List Char
  | 0, c => [c]
  | n + 1, c =>
    match syllableParts? c with
    | some cs => cs
    | none =>
      match pairs.find? (·.whole = c) with
      | some p => parts n p.first ++ [p.second]
      | none => [c]

/-- Puts a mark in its place among the marks that follow: behind those of a lower class. -/
def insertMark (c : Char) : List Char → List Char
  | [] => [c]
  | d :: rest =>
    if classOf d ≠ 0 && classOf d < classOf c then d :: insertMark c rest else c :: d :: rest

/-- The characters apart, with all marks in order. -/
def decomposed (cs : List Char) : List Char :=
  (cs.flatMap (parts depth)).foldr insertMark []

def whole? (a b : Char) : Option Char :=
  (syllable? a b).orElse fun _ =>
    (pairs.find? fun p => p.first = a && p.second = b).map (·.whole)

/-- Composes what follows a letter, where some marks of class `last` and below were left over, the
latest first. A mark reaches the letter unless one left over is in its way. -/
def composeFrom (letter : Char) (left : List Char) (last : Nat) : List Char → List Char
  | [] => letter :: left.reverse
  | c :: cs =>
    let k := classOf c
    match if left.isEmpty || last < k then whole? letter c else none with
    | some w => composeFrom w left last cs
    | none =>
      if k = 0 then letter :: left.reverse ++ composeFrom c [] 0 cs
      else composeFrom letter (c :: left) k cs

def composed (cs : List Char) : List Char :=
  match decomposed cs with
  | [] => []
  | c :: rest => composeFrom c [] 0 rest

end Composition

end MetricsGateway.Text
