import ChainLens.Text.Mark

/-!
Composed text. One letter can be written in several ways: as a character of its own, or as a base
character with marks in any order. In composed text a character of its own is taken wherever there
is one, and the marks that remain stand in the order of their classes.
-/

namespace ChainLens.Text.Composition

/-- The characters that consist of others, with all their parts. Capital letters are left out, and
so are the syllables of Hangul, which are computed. -/
def table : SpanTable (Array (List Char)) :=
  .read (fun | 'e' :: text => SpanTable.entries? text | _ => none) "
  E0-E5e61+300,61+301,61+302,61+303,61+308,61+30A
  E7-EFe63+327,65+300,65+301,65+302,65+308,69+300,69+301,69+302,69+308
  F1-F6e6E+303,6F+300,6F+301,6F+302,6F+303,6F+308 F9-FDe75+300,75+301,75+302,75+308,79+301 FFe79+308
  101e61+304 103e61+306 105e61+328 107e63+301 109e63+302 10Be63+307 10De63+30C 10Fe64+30C 113e65+304
  115e65+306 117e65+307 119e65+328 11Be65+30C 11De67+302 11Fe67+306 121e67+307 123e67+327 125e68+302
  129e69+303 12Be69+304 12De69+306 12Fe69+328 135e6A+302 137e6B+327 13Ae6C+301 13Ce6C+327 13Ee6C+30C
  144e6E+301 146e6E+327 148e6E+30C 14De6F+304 14Fe6F+306 151e6F+30B 155e72+301 157e72+327 159e72+30C
  15Be73+301 15De73+302 15Fe73+327 161e73+30C 163e74+327 165e74+30C 169e75+303 16Be75+304 16De75+306
  16Fe75+30A 171e75+30B 173e75+328 175e77+302 177e79+302 17Ae7A+301 17Ce7A+307 17Ee7A+30C 1A1e6F+31B
  1B0e75+31B 1CEe61+30C 1D0e69+30C 1D2e6F+30C 1D4e75+30C 1D6e75+308+304 1D8e75+308+301
  1DAe75+308+30C 1DCe75+308+300 1DFe61+308+304 1E1e61+307+304 1E3eE6+304 1E7e67+30C 1E9e6B+30C
  1EBe6F+328 1EDe6F+328+304 1EF-1F0e292+30C,6A+30C 1F5e67+301 1F9e6E+300 1FBe61+30A+301 1FDeE6+301
  1FFeF8+301 201e61+30F 203e61+311 205e65+30F 207e65+311 209e69+30F 20Be69+311 20De6F+30F 20Fe6F+311
  211e72+30F 213e72+311 215e75+30F 217e75+311 219e73+326 21Be74+326 21Fe68+30C 227e61+307 229e65+327
  22Be6F+308+304 22De6F+303+304 22Fe6F+307 231e6F+307+304 233e79+304 390e3B9+308+301
  3AC-3B0e3B1+301,3B5+301,3B7+301,3B9+301,3C5+308+301
  3CA-3CEe3B9+308,3C5+308,3BF+301,3C5+301,3C9+301 439e438+306 450-451e435+300,435+308 453e433+301
  457e456+308 45C-45Ee43A+301,438+300,443+306 477e475+30F 4C2e436+306 4D1e430+306 4D3e430+308
  4D7e435+306 4DBe4D9+308 4DDe436+308 4DFe437+308 4E3e438+304 4E5e438+308 4E7e43E+308 4EBe4E9+308
  4EDe44D+308 4EFe443+304 4F1e443+308 4F3e443+30B 4F5e447+308 4F9e44B+308
  622-626e627+653,627+654,648+654,627+655,64A+654 6C0e6D5+654 6C2e6C1+654 6D3e6D2+654 929e928+93C
  931e930+93C 934e933+93C 9CB-9CCe9C7+9BE,9C7+9D7 B48eB47+B56 B4B-B4CeB47+B3E,B47+B57 B94eB92+BD7
  BCA-BCCeBC6+BBE,BC7+BBE,BC6+BD7 C48eC46+C56 CC0eCBF+CD5 CC7-CC8eCC6+CD5,CC6+CD6
  CCA-CCBeCC6+CC2,CC6+CC2+CD5 D4A-D4CeD46+D3E,D47+D3E,D46+D57 DDAeDD9+DCA
  DDC-DDEeDD9+DCF,DD9+DCF+DCA,DD9+DDF 1026e1025+102E 1B06e1B05+1B35 1B08e1B07+1B35 1B0Ae1B09+1B35
  1B0Ce1B0B+1B35 1B0Ee1B0D+1B35 1B12e1B11+1B35 1B3Be1B3A+1B35 1B3De1B3C+1B35
  1B40-1B41e1B3E+1B35,1B3F+1B35 1B43e1B42+1B35 1E01e61+325 1E03e62+307 1E05e62+323 1E07e62+331
  1E09e63+327+301 1E0Be64+307 1E0De64+323 1E0Fe64+331 1E11e64+327 1E13e64+32D 1E15e65+304+300
  1E17e65+304+301 1E19e65+32D 1E1Be65+330 1E1De65+327+306 1E1Fe66+307 1E21e67+304 1E23e68+307
  1E25e68+323 1E27e68+308 1E29e68+327 1E2Be68+32E 1E2De69+330 1E2Fe69+308+301 1E31e6B+301
  1E33e6B+323 1E35e6B+331 1E37e6C+323 1E39e6C+323+304 1E3Be6C+331 1E3De6C+32D 1E3Fe6D+301
  1E41e6D+307 1E43e6D+323 1E45e6E+307 1E47e6E+323 1E49e6E+331 1E4Be6E+32D 1E4De6F+303+301
  1E4Fe6F+303+308 1E51e6F+304+300 1E53e6F+304+301 1E55e70+301 1E57e70+307 1E59e72+307 1E5Be72+323
  1E5De72+323+304 1E5Fe72+331 1E61e73+307 1E63e73+323 1E65e73+301+307 1E67e73+30C+307
  1E69e73+323+307 1E6Be74+307 1E6De74+323 1E6Fe74+331 1E71e74+32D 1E73e75+324 1E75e75+330
  1E77e75+32D 1E79e75+303+301 1E7Be75+304+308 1E7De76+303 1E7Fe76+323 1E81e77+300 1E83e77+301
  1E85e77+308 1E87e77+307 1E89e77+323 1E8Be78+307 1E8De78+308 1E8Fe79+307 1E91e7A+302 1E93e7A+323
  1E95-1E99e7A+331,68+331,74+308,77+30A,79+30A 1EA1e61+323 1EA3e61+309 1EA5e61+302+301
  1EA7e61+302+300 1EA9e61+302+309 1EABe61+302+303 1EADe61+323+302 1EAFe61+306+301 1EB1e61+306+300
  1EB3e61+306+309 1EB5e61+306+303 1EB7e61+323+306 1EB9e65+323 1EBBe65+309 1EBDe65+303
  1EBFe65+302+301 1EC1e65+302+300 1EC3e65+302+309 1EC5e65+302+303 1EC7e65+323+302 1EC9e69+309
  1ECBe69+323 1ECDe6F+323 1ECFe6F+309 1ED1e6F+302+301 1ED3e6F+302+300 1ED5e6F+302+309
  1ED7e6F+302+303 1ED9e6F+323+302 1EDBe6F+31B+301 1EDDe6F+31B+300 1EDFe6F+31B+309 1EE1e6F+31B+303
  1EE3e6F+31B+323 1EE5e75+323 1EE7e75+309 1EE9e75+31B+301 1EEBe75+31B+300 1EEDe75+31B+309
  1EEFe75+31B+303 1EF1e75+31B+323 1EF3e79+300 1EF5e79+323 1EF7e79+309 1EF9e79+303
  1F00-1F07e3B1+313,3B1+314,3B1+313+300,3B1+314+300,3B1+313+301,3B1+314+301,3B1+313+342,3B1+314+342
  1F10-1F15e3B5+313,3B5+314,3B5+313+300,3B5+314+300,3B5+313+301,3B5+314+301
  1F20-1F27e3B7+313,3B7+314,3B7+313+300,3B7+314+300,3B7+313+301,3B7+314+301,3B7+313+342,3B7+314+342
  1F30-1F37e3B9+313,3B9+314,3B9+313+300,3B9+314+300,3B9+313+301,3B9+314+301,3B9+313+342,3B9+314+342
  1F40-1F45e3BF+313,3BF+314,3BF+313+300,3BF+314+300,3BF+313+301,3BF+314+301
  1F50-1F57e3C5+313,3C5+314,3C5+313+300,3C5+314+300,3C5+313+301,3C5+314+301,3C5+313+342,3C5+314+342
  1F60-1F67e3C9+313,3C9+314,3C9+313+300,3C9+314+300,3C9+313+301,3C9+314+301,3C9+313+342,3C9+314+342
  1F70e3B1+300 1F72e3B5+300 1F74e3B7+300 1F76e3B9+300 1F78e3BF+300 1F7Ae3C5+300 1F7Ce3C9+300
  1FB0-1FB1e3B1+306,3B1+304 1FB6e3B1+342 1FC6e3B7+342 1FD0-1FD2e3B9+306,3B9+304,3B9+308+300
  1FD6-1FD7e3B9+342,3B9+308+342 1FE0-1FE2e3C5+306,3C5+304,3C5+308+300
  1FE4-1FE7e3C1+313,3C1+314,3C5+342,3C5+308+342 1FF6e3C9+342 219A-219Be2190+338,2192+338
  21AEe2194+338 21CD-21CFe21D0+338,21D4+338,21D2+338 2204e2203+338 2209e2208+338 220Ce220B+338
  2224e2223+338 2226e2225+338 2241e223C+338 2244e2243+338 2247e2245+338 2249e2248+338 2260e3D+338
  2262e2261+338 226D-2271e224D+338,3C+338,3E+338,2264+338,2265+338 2274-2275e2272+338,2273+338
  2278-2279e2276+338,2277+338 2280-2281e227A+338,227B+338 2284-2285e2282+338,2283+338
  2288-2289e2286+338,2287+338 22AC-22AFe22A2+338,22A8+338,22A9+338,22AB+338
  22E0-22E3e227C+338,227D+338,2291+338,2292+338 22EA-22EDe22B2+338,22B3+338,22B4+338,22B5+338
  304Ce304B+3099 304Ee304D+3099 3050e304F+3099 3052e3051+3099 3054e3053+3099 3056e3055+3099
  3058e3057+3099 305Ae3059+3099 305Ce305B+3099 305Ee305D+3099 3060e305F+3099 3062e3061+3099
  3065e3064+3099 3067e3066+3099 3069e3068+3099 3070-3071e306F+3099,306F+309A
  3073-3074e3072+3099,3072+309A 3076-3077e3075+3099,3075+309A 3079-307Ae3078+3099,3078+309A
  307C-307De307B+3099,307B+309A 3094e3046+3099 309Ee309D+3099 30ACe30AB+3099 30AEe30AD+3099
  30B0e30AF+3099 30B2e30B1+3099 30B4e30B3+3099 30B6e30B5+3099 30B8e30B7+3099 30BAe30B9+3099
  30BCe30BB+3099 30BEe30BD+3099 30C0e30BF+3099 30C2e30C1+3099 30C5e30C4+3099 30C7e30C6+3099
  30C9e30C8+3099 30D0-30D1e30CF+3099,30CF+309A 30D3-30D4e30D2+3099,30D2+309A
  30D6-30D7e30D5+3099,30D5+309A 30D9-30DAe30D8+3099,30D8+309A 30DC-30DDe30DB+3099,30DB+309A
  30F4e30A6+3099 30F7-30FAe30EF+3099,30F0+3099,30F1+3099,30F2+3099 30FEe30FD+3099 105C9e105D2+307
  105E4e105DA+307 1109Ae11099+110BA 1109Ce1109B+110BA 110ABe110A5+110BA
  1112E-1112Fe11131+11127,11132+11127 1134B-1134Ce11347+1133E,11347+11357 11383e11382+113C9
  11385e11384+113BB 1138Ee1138B+113C2 11391e11390+113C9 113C5e113C2+113C2
  113C7-113C8e113C2+113B8,113C2+113C9 114BB-114BCe114B9+114BA,114B9+114B0 114BEe114B9+114BD
  115BA-115BBe115B8+115AF,115B9+115AF 11938e11935+11930
  16121-16123e1611E+1611E,1611E+16129,1611E+1611F
  16124-16127e16129+1611F,1611E+16120,1611E+1611E+1611F,1611E+16129+1611F 16128e1611E+1611E+16120
  16D68-16D6Ae16D67+16D67,16D63+16D67,16D63+16D67+16D67"

def composed : List (Char × List Char) :=
  table.spans.toList.flatMap fun span =>
    span.value.toList.zipIdx.map fun (parts, place) => (Char.ofNat (span.first + place), parts)

def parts (c : Char) : List Char :=
  ((table.find? c).bind fun span => span.value[c.toNat - span.first]?).getD [c]

/-- Puts a character before others of which the marks are in order: it moves behind marks of lower
classes. -/
def settle (c : Char) : List Char → List Char
  | [] => [c]
  | d :: rest =>
    if combiningClass d ≠ 0 ∧ combiningClass d < combiningClass c then d :: settle c rest
    else c :: d :: rest

/-- The text with marks in the order of their classes; marks of one class keep theirs. -/
def order (text : List Char) : List Char := text.foldr settle []

/-- A leading consonant and a vowel of Hangul, or a syllable without a final consonant and such a
consonant. -/
def hangul? (c d : Char) : Option Char :=
  let (m, n) := (c.toNat, d.toNat)
  if 0x1100 ≤ m ∧ m < 0x1113 ∧ 0x1161 ≤ n ∧ n < 0x1176 then
    some (Char.ofNat (0xAC00 + ((m - 0x1100) * 21 + (n - 0x1161)) * 28))
  else if 0xAC00 ≤ m ∧ m < 0xD7A4 ∧ (m - 0xAC00) % 28 = 0 ∧ 0x11A8 ≤ n ∧ n < 0x11C3 then
    some (Char.ofNat (m + (n - 0x11A7)))
  else none

def pair? (c d : Char) : Option Char :=
  if d.toNat < 0x80 then none
  else (hangul? c d).or ((composed.find? fun (_, whole) => whole = parts c ++ [d]).map Prod.fst)

structure Progress where
  done : List Char
  /-- The last character of class zero. -/
  base : Option Char
  /-- What follows it and could not be joined to it. -/
  kept : List Char

namespace Progress

def start : Progress := { done := [], base := none, kept := [] }

def all (p : Progress) : List Char := p.kept ++ p.base.toList ++ p.done

/-- A character between `c` and the base is of class zero or not of a lower class. -/
def isBlocked (p : Progress) (c : Char) : Bool :=
  match p.kept with
  | [] => false
  | d :: _ => combiningClass d = 0 || combiningClass c ≤ combiningClass d

/-- Joins a character to the base if they compose, and keeps it otherwise. -/
def add (p : Progress) (c : Char) : Progress :=
  let joined := if p.isBlocked c then none else p.base.bind fun b => pair? b c
  match joined with
  | some whole => { p with base := some whole }
  | none =>
    if combiningClass c = 0 then { done := p.all, base := some c, kept := [] }
    else if p.base.isSome then { p with kept := c :: p.kept }
    else { p with done := c :: p.done }

end Progress

def compose (text : List Char) : List Char :=
  ((order (text.flatMap parts)).foldl Progress.add .start).all.reverse

end ChainLens.Text.Composition
