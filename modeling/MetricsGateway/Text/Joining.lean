import MetricsGateway.Text.CodeRuns

/-!
Marks, and how letters of cursive scripts join their neighbours.
-/

namespace MetricsGateway.Text

/-- Runs of marks and of other characters, by the letters `m` and `o`. -/
def markTable : List String := [
  "o300m71o112m8o106m2do1m1o1m2o1m2o1m9o40mbo30m15o10m1o65m8o1m6o2m2o1m4o23m1o1em1do59mbo3am9o9m1",
  "o18m4o1m9o1m3o1m7o29m5o3am8o2am3ao36m3o1m12o1mfo2m2o1dm4o37m1o1m10o9m9o2m4o18m7o37m20o14m2o3m1",
  "obm4o37m1o1m12o12m4o14mbo37m1o1m21o3m4o1cm1o3bm12o7mfo1am5o37m1o1m1aoam4o1bm3o38m1o1m1eo6m4o1a",
  "m4o37m2o1m10o9m1oam4o1bm4o45m1cocm2o3dm1o2mbo8m8o62m1o2m9obm6o4am2o1bm1o1m1o1m1o4m2o31m14o1m2o5",
  "m31o8m1o64m14o17m4o4m3o1m3o2m7o3m4odmco1m1oam4o2bfm3o3b2mdo13m3o1dmeo12meo36m1eo9m3oa5m2o22m1",
  "o76m20od7m7o37m2bo30m1fo31m5o2fm11o26m9ocm3o1emdo38m16o28m17o95m3o1m15o4m1o6m1o2m3oc6m41o2cfm34",
  "obebm4o8cm1o60m20o22am6o69m4o75d2m4o1mao20m2o50m2o110m1o3m1o4m1o17m5o4m4o50m2o32m1ao12m12odm1",
  "o26m8o19m18o21m4o2fmeo24m1o43m17o3m1o8m4o2bm3o32m1o1m3o2m2o5m2o1m1o29m5o5mcoe2m8o1m4o4f2em94",
  "o26em25o3b8m83o60m1o95mao681mfo28m8oa5m6o239mco17bm2o99mbo31m4o7am3o35mfo29m1o2m2oam4o2dmbo7me",
  "o30m3o24mfofm2o2cm1ocm3o30meo8m4o1m2o5cmco6m1oa0m11o10m5o36m2o1m12o7m6o5m1eob5m12o17m1o51m14oeb",
  "m12o1bm24o30m11o6amdo65m13ofcmfof5mfo1m1o1m2o8dm10o3m1co1mao28m7o1m4o8m9o1mbo2em10o195m11o52m6e",
  "o31m15o1m9o3ameo15bm4o4bf9m5o3bm7o418m1o1m42o51meo4cabm2o1261m50o215m5o3m16o2m7o1em4o94m3o7bb",
  "m37o4m32o8m1oem1o16m465o100m8foa1m7o177m12o2cm4o5e0m52o22m7of16b5"]

/-- Runs of code points that join in the same way, by letter: `w` on both sides, `r` to the right, `l`
to the left, `t` not at all, so that their neighbours join across them. -/
def joiningTable : List String := [
  "u300t71u112t8u106t2du1t1u1t2u1t2u1t9u40tbu5w1u1r4w1r1w1r1w5r4wdj1w7r1w2t15uew2t1r3u5wfr12w26r1",
  "w2r9w1r1w1r1w2r2u1r1t8u1t6u2t2u1t4r2uaw3u2w1u10r1t1w3r5w4r1w9r1w1r1w1r1w2r1t1dr1wbr3wfr2w4r1w1",
  "r2w3r2w6u26tbu19w21t9u6j3t1u18t4u1t9u1t3u1t7u10r1w5r2w1r1war1w1r3t5u2w1u1w4u1r1w1r1aj3w1u2w5r1",
  "w8t9war3u1r1w2r2w6r1wfu1t39u37t1u1t1u4t8u4t1u3tfu2t2u1dt1u3at1u4t6u6t1u14t4u18t5u39t2u3t1bu14t2",
  "u3t1ubt2u39t1u4t8u4t3u12t4u14t8u3at1u2t1u1t6u6taubt4u1ct1u3dt1uct3u30t1u3t1u37t1u1t3u5t12uat4",
  "u1bt1u3at1u2t1u6t1u5t9udt4u1at2u39t2u4t5u7t1u14t4u1bt1u48t5u3t6u59t1u2tbu8t8u62t1u2t9ubt8u48t2",
  "u1bt1u1t1u1t1u37teu1t5u1t2u5t31u8t1u66t4u1t6u1t2u2t2u19t2u4t3u10t4udt1u2t2u6t1uft1u2bft3u3b2t3",
  "u1dt2u1eteu12teu37t7u8t1u2tbu9t3u27w1u2j6u10w60u5t2w22t1w6u70t3u4t2u9t1u6t7ud7t2u2t3u38t1u1t9u1",
  "t1u2t8u6tdu30t54u30t1u1t5u1t1u5t1u28t9uct2u20t4u2t2u1t3u38t1u1t2u3t1u1t3u3at8u2t5u95t3u1tdu1t7",
  "u4t1u6t1u3t2uc6t41u20cj3uc0t34ubebt4u8ct1u60t20u22at4u6bt4u75d2t4u1tau20t2u50t2u110t1u3t1u4t1",
  "u19t2u5t4u10w32l1u51tau12t12udt1u26t8u19tbu2et3u30t1u2t4u2t2u27t1u43t6u2t2u2tbu3t1u8t1u2ft1u33",
  "t1u1t3u2t2u5t2u1t1u2at2u8tbue4t1u2t1u4t3u4f2et94u26et25u3b8t83u60t1u95tau681tfu28t8u80w5r1u1r1",
  "u1r2u2l1r5w4l1w5r1w3r1u2r1t6w4r1u90w1r1w1r3w3r1w2r1w1r2w1r8u10r4w2u151l1w21r1w1tcu39t5u13dt2u15",
  "r1w2u1wau2at6u30w3r1w11u1tbw3r1u1bw4r2wct4u2aw1u1w2r3u1w1r2w2r1w2u1w1r2w1u4r1w1l15u21t1u36tfu29",
  "t1u2t2uat3u31t4u2t2u7teu30t3u24t5u1t9u3dt1uct2u34t9uat4u2t1u5ft3u2t1u1t2u6t1u2t3fu5ft1u3tdu10t2",
  "u39t2u3t1u25t1au3bt7uct1u1t1u1t1uet1fu38t8u2t3u1t1u17t1u54t6u1t1u4t2u1t2ueet6u4t2u1t2u1bt24u33",
  "t8u2t1u1t2u6at1u1t1u2t6u1t1u65t1u1t1u2t4u1t9ufft9u1t2u100t2u1t1u4t1u90t8u4t1u20tau28t6u2t4u8t9",
  "u1t6u2t3u2etdu1t2uc6t1u1t3u1t1uc9teu1t1u52t17u1t7u1t2u1t4bu31t15u1t9u40t3u2t1u1t1u15bt2ubt2u34",
  "t8u2t1u1t1u17t56u1490t1u6t19u2cbetcu3t3u9c0t5u3bt7u418t1u3ft4u51tcu4cadt2u1261t50u217t3u11t8u2",
  "t7u1et4u94t3u7bbt37u4t32u8t1uet1u16t465u100t100u30t7u177t12u2ct4u1fct4ufet2uf3t1u2t1u7t2u5t9",
  "u1d2t52w22tcuf16b0"]

def markRuns : List (CodeRun Char) := letterRuns markTable

def isMark (c : Char) : Bool := letterAt markRuns c = some 'm'

def joiningRuns : List (CodeRun Char) := letterRuns joiningTable

/-- Does the nearest character that is not joined across have one of these letters? -/
def joinsNext (letters : List Char) (cs : List Char) : Bool :=
  match (cs.map (letterAt joiningRuns)).dropWhile (· = some 't') with
  | some k :: _ => letters.contains k
  | _ => false

def joins (before after : List Char) : Bool :=
  joinsNext ['l', 'w'] before && joinsNext ['r', 'w'] after

end MetricsGateway.Text
