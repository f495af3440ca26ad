import MetricsGateway.Text.CodeRuns

/-!
The direction in which text is written, and which texts with letters that run from right to left have
one order on every page.
-/

namespace MetricsGateway.Text

/-- Runs of code points with one direction, by letter. -/
def directionTable : List String := [
  "z9x5zex5o2t3o5p1k1p1k2gak1o26l1ao4z22o1t4oat6o29l18o1l1c1o2l7oel2o1cl1o11m71l4o2l7fo2l8bm8lffo5",
  "t2m2dr1m1r1m2r1m2r1m9r36o2u1t2u1k1u1o2mbu30m15nat1n2u3m1u65m8o1m6u2m2o1m4u2gau17m1u1em1du59mbuf",
  "r2bm9r2o4r3m1r18m4r1m9r1m3r1m7r29m5r2u38m8u2am39l37m1l1m1l4m8l4m1l3mfl2m2l1dm1l3am1l4m6l6m1l14",
  "m4lct2l7t1l2m5l39m2l3m1bl14m2l3m1lbm2l39m1l4m8l4m3l12m4lbt8l1m8l3am1l2m1l1m6l6malbm4l1cm1l3dm1",
  "lcm3l23o6t1o6m1l3m1l37m1l1m3l5m12lam4l12o7l2m1l3am1lfm9ldm4l1am2l39m2l4m5l7m1l14m4l1bm1l48m5l3",
  "m6l59m1l2mbt1l7m8l62m1l2m9lbm6l4am2l1bm1l1m1l1m1o4l33mel1m5l1m2l5m31l8m1l66m4l1m6l1m2l2m2l19m2",
  "l4m3l10m4ldm1l2m2l6m1lfm1l2bfm3l30o10l60o1l29ao5l72m3l1dm2l1emel12mel37m7l8m1l2mbl7t1l1m3l10o20",
  "l75m2l22m1l76m3l4m2l9m1l6m7o6l98o22l17m2l2m3l38m1l1m9l1m1l2m8l6mdl30m1fl31m4l30m1l1m5l1m1l5m1",
  "l28m9lcm2l20m4l2m2l1m3l38m1l1m2l3m1l1m3l3am8l2m5l95m3l1mdl1m7l4m1l6m1l3m2lc6m41l20bz4o20t5ofk1",
  "o5bt21lfm34o2atco14l3co88p1t1o122l45o1al1o91l19o26cl1o153l100o296l1o99lb5o7l3m4l6o7l7fm1l60m20",
  "o205l3o19l9m4l2o1l6o4l2o4l58m4l3o1l5ao1lc4o24l1bdco40l5690o40l13do3l5fm4o1mao3l1dm2l50m2leo23",
  "l65o1l79m1l3m1l4m1l19m2l1o4m4l8t8l34ocl44mal12m12ldm1l26m8l19mbl2em3l30m1l2m4l2m2l27m1l43m6l2m2",
  "l2mbl3m1l8m1l2fm1l33m1l1m3l2m2l5m2l1m1l2am2l8mbl69o56l25m1l2m1l4m3l4f2em94u18co52u3fo51m25o2e",
  "u18dl101o1l3eo4dl3o40l2dm83l60m1g1fl76mal480r11fo1re1mfr28m8ra5m6r4eo7r1c0u24mcn10r120n20r2bm2",
  "r15u3er30u16mbu1fr12m4r7al1m1l36mflbo14lam1l2m2lam3l31m4l2m2l7mel30m3l24m5l1m9l3dm1lcm2l34m9la",
  "m4l2m1l5fm3l2m1l1m2l6m1la0m1l3mdl10m2l39m2l3m1l25m1alb8m8l2m3l1m1l17m1l54m6l1m1l4m2l1m2leem6l4",
  "m2l1m2l1bm24l33m8l2m1l1m2l1fo20l2bm1l1m1l2m6l1m1l65m3l2m4l1m9lffm9l1m2l100m2l1m1l4m1l90m8l4m1",
  "l20m6l2m2l28m6l2m4l8m9l1m6l2m3l2emdl1m2l196mel54m17l1m7l1m2l1m4bl31m15l1m9l40m3l2m1l1m1l15bm2",
  "le0o8t4o1el4af1m5l3bm7l418m1l3fm4l4fo1l1mcl4cadm2l1261m50l217m3l11m8l2m7l1em4l3bo59m3o7bl40o60",
  "l6a0m37l4m32l8m1lem1l16m465l100m8fla1m7l177m12l2cm4lft1d1l330rd0m52r22m7r326u27fo260l1do3l3do39",
  "l7ao478l5o97lco59l7od2l4eo154lco15l3ofl9o1dl3obl5o6laoal6o8l8o7l9ocblf0435"]

/-- The directions that characters have: letters from left to right, from right to left and of
Arabic scripts, numbers of both kinds, what stands in and beside numbers, neutral characters, marks
and what is passed over. -/
inductive Direction where
  | leftToRight
  | rightToLeft
  | arabicLetter
  | arabicNumber
  | europeanNumber
  | europeanSeparator
  | commonSeparator
  | europeanTerminator
  | neutral
  | passedOver
  | mark
  | separator
  deriving DecidableEq, Repr

namespace Direction

def ofLetter : Char → Direction
  | 'l' => leftToRight
  | 'r' => rightToLeft
  | 'u' => arabicLetter
  | 'n' => arabicNumber
  | 'g' => europeanNumber
  | 'p' => europeanSeparator
  | 'k' => commonSeparator
  | 't' => europeanTerminator
  | 'o' => neutral
  | 'z' => passedOver
  | 'm' => mark
  | _ => separator

def runs : List (CodeRun Char) := letterRuns directionTable

def ofChar (c : Char) : Direction := ofLetter ((letterAt runs c).getD 'l')

/-- Does a character with this direction make a text run both ways? -/
def isFromRight (d : Direction) : Bool :=
  [rightToLeft, arabicLetter, arabicNumber].contains d

def anywhere : List Direction :=
  [europeanNumber, europeanSeparator, commonSeparator, europeanTerminator, neutral, passedOver, mark]

/-- Does a label keep its order beside labels from right to left? Its first letter gives its
direction, all others have to go with it, and it ends in a letter or a number. -/
def isOrdered (label : List Direction) : Bool :=
  let last := (label.reverse.dropWhile (· = mark)).head?
  match label with
  | [] => true
  | leftToRight :: rest =>
    rest.all (leftToRight :: anywhere).contains &&
      last.all [leftToRight, europeanNumber].contains
  | first :: rest =>
    [rightToLeft, arabicLetter].contains first &&
      rest.all (rightToLeft :: arabicLetter :: arabicNumber :: anywhere).contains &&
      last.all [rightToLeft, arabicLetter, europeanNumber, arabicNumber].contains &&
      !(rest.contains europeanNumber && rest.contains arabicNumber)

end Direction

end MetricsGateway.Text
