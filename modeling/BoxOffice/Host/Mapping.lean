import BoxOffice.Text.GraphemeExtend
import BoxOffice.Text.Printable

set_option autoImplicit false

/-!
# Characters of host names

Before a host name is written in ASCII its characters are mapped: capital letters to small ones,
forms of a letter or digit to the letter or digit itself, the full stops of other scripts to a dot.
Some characters stand for nothing. A character without a mapping stands for itself if it can be
printed.
-/

namespace BoxOffice.Host

/-- The first character of a run, how many it has, how far they lie apart, and what the first one is
mapped to; the others are mapped to characters that lie equally far apart. -/
def mappedRuns : Array (Nat × Nat × Nat × Nat) :=
  #[(65, 26, 1, 97), (160, 1, 1, 32), (170, 1, 1, 97), (178, 2, 1, 50), (185, 1, 1, 49),
    (186, 1, 1, 111), (192, 23, 1, 224), (216, 7, 1, 248), (256, 24, 2, 257), (330, 23, 2, 331),
    (383, 1, 1, 115), (461, 8, 2, 462), (478, 9, 2, 479), (504, 20, 2, 505), (546, 9, 2, 547),
    (688, 2, 2, 104), (691, 1, 1, 114), (695, 1, 1, 119), (696, 1, 1, 121), (737, 1, 1, 108),
    (738, 1, 1, 115), (739, 1, 1, 120), (894, 1, 1, 59), (913, 17, 1, 945), (931, 9, 1, 963),
    (984, 12, 2, 985), (1024, 16, 1, 1104), (1040, 32, 1, 1072), (1120, 17, 2, 1121),
    (1162, 27, 2, 1163), (1217, 7, 2, 1218), (1232, 48, 2, 1233), (1329, 38, 1, 1377),
    (4256, 38, 1, 11520), (5112, 6, 1, 5104), (7312, 43, 1, 4304), (7468, 1, 1, 97),
    (7470, 2, 2, 98), (7473, 5, 2, 101), (7476, 4, 2, 104), (7484, 1, 1, 111), (7486, 1, 1, 112),
    (7487, 1, 1, 114), (7488, 2, 1, 116), (7490, 1, 1, 119), (7491, 1, 1, 97), (7495, 1, 1, 98),
    (7496, 2, 1, 100), (7501, 1, 1, 103), (7503, 1, 1, 107), (7504, 2, 2, 109),
    (7510, 1, 1, 112), (7511, 2, 1, 116), (7515, 1, 1, 118), (7522, 1, 1, 105),
    (7523, 1, 1, 114), (7524, 2, 1, 117), (7580, 1, 1, 99), (7584, 1, 1, 102), (7611, 1, 1, 122),
    (7680, 75, 2, 7681), (7840, 48, 2, 7841), (7944, 8, 1, 7936), (7960, 6, 1, 7952),
    (7976, 8, 1, 7968), (7992, 8, 1, 7984), (8008, 6, 1, 8000), (8040, 8, 1, 8032),
    (8175, 1, 1, 96), (8192, 1, 1, 32), (8193, 1, 1, 32), (8194, 1, 1, 32), (8195, 1, 1, 32),
    (8196, 1, 1, 32), (8197, 1, 1, 32), (8198, 1, 1, 32), (8199, 1, 1, 32), (8200, 1, 1, 32),
    (8201, 1, 1, 32), (8202, 1, 1, 32), (8239, 1, 1, 32), (8287, 1, 1, 32), (8304, 1, 1, 48),
    (8305, 1, 1, 105), (8308, 6, 1, 52), (8314, 1, 1, 43), (8316, 1, 1, 61), (8317, 2, 1, 40),
    (8319, 1, 1, 110), (8320, 10, 1, 48), (8330, 1, 1, 43), (8332, 1, 1, 61), (8333, 2, 1, 40),
    (8336, 1, 1, 97), (8337, 1, 1, 101), (8338, 1, 1, 111), (8339, 1, 1, 120), (8341, 1, 1, 104),
    (8342, 4, 1, 107), (8346, 1, 1, 112), (8347, 2, 1, 115), (8450, 1, 1, 99), (8458, 2, 1, 103),
    (8460, 1, 1, 104), (8461, 1, 1, 104), (8462, 1, 1, 104), (8464, 1, 1, 105),
    (8465, 1, 1, 105), (8466, 1, 1, 108), (8467, 1, 1, 108), (8469, 1, 1, 110),
    (8473, 3, 1, 112), (8476, 1, 1, 114), (8477, 1, 1, 114), (8484, 1, 1, 122),
    (8488, 1, 1, 122), (8490, 1, 1, 107), (8492, 2, 1, 98), (8495, 1, 1, 101), (8496, 1, 1, 101),
    (8497, 1, 1, 102), (8499, 1, 1, 109), (8500, 1, 1, 111), (8505, 1, 1, 105),
    (8517, 1, 1, 100), (8518, 1, 1, 100), (8519, 1, 1, 101), (8520, 2, 1, 105),
    (8544, 1, 1, 105), (8548, 1, 1, 118), (8553, 1, 1, 120), (8556, 1, 1, 108), (8557, 2, 1, 99),
    (8559, 1, 1, 109), (8560, 1, 1, 105), (8564, 1, 1, 118), (8569, 1, 1, 120),
    (8572, 1, 1, 108), (8573, 2, 1, 99), (8575, 1, 1, 109), (9312, 9, 1, 49), (9398, 26, 1, 97),
    (9424, 26, 1, 97), (9450, 1, 1, 48), (11264, 48, 1, 11312), (11388, 1, 1, 106),
    (11389, 1, 1, 118), (11392, 50, 2, 11393), (12288, 1, 1, 32), (12290, 1, 1, 46),
    (12602, 6, 1, 4528), (12613, 10, 1, 4361), (12623, 21, 1, 4449), (13028, 6, 1, 12490),
    (13045, 6, 1, 12520), (42560, 23, 2, 42561), (42624, 14, 2, 42625), (42786, 7, 2, 42787),
    (42802, 31, 2, 42803), (42902, 10, 2, 42903), (42932, 8, 2, 42933), (42956, 8, 2, 42957),
    (42993, 1, 1, 115), (42994, 1, 1, 99), (42995, 1, 1, 102), (42996, 1, 1, 113),
    (43888, 80, 1, 5024), (64297, 1, 1, 43), (65040, 1, 1, 44), (65043, 2, 1, 58),
    (65045, 1, 1, 33), (65046, 1, 1, 63), (65075, 1, 1, 95), (65076, 1, 1, 95),
    (65077, 2, 1, 40), (65079, 1, 1, 123), (65080, 1, 1, 125), (65095, 1, 1, 91),
    (65096, 1, 1, 93), (65101, 1, 1, 95), (65102, 1, 1, 95), (65103, 1, 1, 95),
    (65104, 1, 1, 44), (65108, 1, 1, 59), (65109, 1, 1, 58), (65110, 1, 1, 63),
    (65111, 1, 1, 33), (65113, 2, 1, 40), (65115, 1, 1, 123), (65116, 1, 1, 125),
    (65119, 1, 1, 35), (65120, 1, 1, 38), (65121, 2, 1, 42), (65123, 1, 1, 45),
    (65124, 1, 1, 60), (65125, 1, 1, 62), (65126, 1, 1, 61), (65128, 1, 1, 92),
    (65129, 2, 1, 36), (65131, 1, 1, 64), (65281, 32, 1, 33), (65313, 26, 1, 97),
    (65339, 36, 1, 91), (65377, 1, 1, 46), (65413, 6, 1, 12490), (65430, 6, 1, 12520),
    (65450, 6, 1, 4528), (65461, 10, 1, 4361), (65474, 6, 1, 4449), (65482, 6, 1, 4455),
    (65490, 6, 1, 4461), (66560, 40, 1, 66600), (66736, 36, 1, 66776), (66928, 19, 2, 66967),
    (66941, 7, 2, 66980), (67493, 1, 1, 113), (68736, 51, 1, 68800), (68944, 22, 1, 68976),
    (71840, 32, 1, 71872), (93760, 32, 1, 93792), (93856, 25, 1, 93883), (117974, 26, 1, 97),
    (118000, 10, 1, 48), (119808, 26, 1, 97), (119834, 26, 1, 97), (119860, 26, 1, 97),
    (119886, 13, 2, 97), (119887, 3, 2, 98), (119895, 9, 2, 106), (119912, 26, 1, 97),
    (119938, 26, 1, 97), (119964, 2, 2, 97), (119967, 1, 1, 100), (119970, 1, 1, 103),
    (119973, 2, 1, 106), (119977, 4, 1, 110), (119982, 8, 1, 115), (119990, 4, 1, 97),
    (119995, 11, 2, 102), (119998, 3, 2, 105), (120006, 5, 2, 113), (120016, 26, 1, 97),
    (120042, 26, 1, 97), (120068, 2, 1, 97), (120071, 4, 1, 100), (120077, 8, 1, 106),
    (120086, 7, 1, 115), (120094, 26, 1, 97), (120120, 2, 1, 97), (120123, 4, 1, 100),
    (120128, 5, 1, 105), (120134, 1, 1, 111), (120138, 7, 1, 115), (120146, 26, 1, 97),
    (120172, 26, 1, 97), (120198, 26, 1, 97), (120224, 26, 1, 97), (120250, 26, 1, 97),
    (120276, 26, 1, 97), (120302, 26, 1, 97), (120328, 26, 1, 97), (120354, 26, 1, 97),
    (120380, 26, 1, 97), (120406, 26, 1, 97), (120432, 26, 1, 97), (120458, 26, 1, 97),
    (120488, 17, 1, 945), (120506, 7, 1, 963), (120514, 17, 1, 945), (120533, 6, 1, 964),
    (120546, 17, 1, 945), (120564, 7, 1, 963), (120572, 17, 1, 945), (120591, 6, 1, 964),
    (120604, 17, 1, 945), (120622, 7, 1, 963), (120630, 17, 1, 945), (120649, 6, 1, 964),
    (120662, 17, 1, 945), (120680, 7, 1, 963), (120688, 17, 1, 945), (120707, 6, 1, 964),
    (120720, 17, 1, 945), (120738, 7, 1, 963), (120746, 17, 1, 945), (120765, 6, 1, 964),
    (120782, 10, 1, 48), (120792, 10, 1, 48), (120802, 10, 1, 48), (120812, 10, 1, 48),
    (120822, 10, 1, 48), (122928, 9, 1, 1072), (122940, 11, 1, 1086), (122961, 9, 1, 1072),
    (122975, 6, 1, 1091), (125184, 34, 1, 125218), (127275, 1, 1, 99), (127276, 1, 1, 114),
    (127280, 26, 1, 97), (130032, 10, 1, 48)]

/-- Characters that stand for nothing, as inclusive ranges. -/
def ignoredRanges : List (Nat × Nat) :=
  [(173, 173), (847, 847), (4447, 4448), (6068, 6069), (6155, 6159), (8203, 8203), (8288, 8292),
    (8298, 8303), (12644, 12644), (65024, 65039), (65279, 65279), (65440, 65440), (113824, 113827),
    (119155, 119162), (917760, 917999)]

def isIgnored (c : Char) : Bool := ignoredRanges.any fun r => r.1 ≤ c.toNat && c.toNat ≤ r.2

def mappedBy (c : Char) : Nat × Nat × Nat × Nat → Option Char
  | (first, count, step, target) =>
    let distance := c.toNat - first
    if first ≤ c.toNat ∧ distance < count * step ∧ distance % step = 0 then
      some (Char.ofNat (target + distance))
    else none

def mapChar (c : Char) : Option (List Char) :=
  if isIgnored c then some []
  else
    match mappedRuns.findSome? (mappedBy c) with
    | some mapped => some [mapped]
    | none =>
      if c.toNat < 128 ∨ Text.isPrintable c then some [c] else none

end BoxOffice.Host
