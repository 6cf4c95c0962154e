import RecordBase.Collation.Transliteration.Basic

/-!
# Latin letters and numbers

The spellings of Latin letters with marks, of ligatures and of the letters of
phonetic scripts, and of numbers that are written as one character.
-/

namespace RecordBase

namespace Transliteration

/-- Latin letters, among them those of phonetic scripts, and letters of double width. -/
def latin : List Run :=
  [ run 0xAA "a"
  , run 0xB2 (
        "2 3 * u * * * 1 o * 1/4 1/2 3/4 * a a a a a a ae c e e e e i i i i d n o o o o o " ++
        "* o u u u u y th ss a a a a a a ae c e e e e i i i i d n o o o o o * o u u u u y " ++
        "th y a a a a a a c c c c c c c c d d d d e e e e e e e e e e g g g g g g g g h h " ++
        "h h i i i i i i i i i i ij ij j j k k k l l l l l l l l l l n n n n n n 'n ng ng " ++
        "o o o o o o oe oe r r r r r r s s s s s s s s t t t t t t u u u u u u u u u u u " ++
        "u w w y y y z z z z z z s b b b b 6 6 o c c d d d d d 3 @ e f f g g hv i i k k l " ++
        "l w n n o o o oi oi p p yr 2 2 sh sh t t t t u u y v y y z z zh zh zh zh 2 5 5 " ++
        "ts w | || |= ! dz dz dz lj lj lj nj nj nj a a i i o o u u u u u u u u u u @ a a " ++
        "a a ae ae g g g g k k o o o o zh zh j dz dz dz g g hv w n n a a ae ae o o a a a " ++
        "a e e e e i i i i o o o o r r r r u u u u s s t t y y h h n d ou ou z z a a e e " ++
        "o o o o o o o o y y l n t j db qp a c c l t s z ? ? b u v e e j j q q r r y y a " ++
        "a a b o c d d e @ @ e e e e j g g g g u y h h i i i l l l lz w w m n n n o oe o " ++
        "f r r r r r r r r r s s j s s t t u u v ^ w y y z z z z ? ? ? c @ b e g h j k l " ++
        "q ? ? dz dz dz ts ts tc fn ls lz ww ]] h h k h j r r r r w y ' \" ` ' ` ` ' ? ? " ++
        "* * * * ^ v ' - / \\ , _ \\ / : .")
  , run 0x2E0 "g l s x ?"
  , run 0x2EC "v * \""
  , run 0x1D00 "a ae * * c d * e * * j k l m * o * * * * * ou * * p * * t u * * * v w z"
  , run 0x1D2C (
        "a ae b * d e 3 g h i j k l m n * o ou p r t u w a a a * b d e @ e e g * k m ng o " ++
        "o * * p t u * w v * b g d ph kh i r u v b g r ph kh ue b d f m n p r r s t z * n " ++
        "* th * * p * * b d f g k l m n p r s * v x z a * d e * * * i * * u * a c c d e f " ++
        "j g y i i i * j l l l m w n n n o f s s t u u u v ^ z z z z th")
  , run 0x1E00 (
        "a a b b b b b b c c d d d d d d d d d d e e e e e e e e e e f f g g h h h h h h " ++
        "h h h h i i i i k k k k k k l l l l l l l l m m m m m m n n n n n n n n o o o o " ++
        "o o o o p p p p r r r r r r r r s s s s s s s s s s t t t t t t t t u u u u u u " ++
        "u u u u v v v v w w w w w w w w w w x x x x y y z z z z z z h t w y a` s * * ss " ++
        "d a a a a a a a a a a a a a a a a a a a a a a a a e e e e e e e e e e e e e e e " ++
        "e i i i i o o o o o o o o o o o o o o o o o o o o o o o o u u u u u u u u u u u " ++
        "u u u y y y y y y y y * * * * y y")
  , run 0x2C60 "l l l p r a t h h k k z z * m * * v w w v * * * e * o * j v s z"
  , run 0xA728 "tz tz"
  , run 0xA730 (
        "f s aa aa ao ao au au av av av av ay ay * * k k k k k k * * l l o o o o oo oo p " ++
        "p p p p p q q q q * * * * v v vy vy")
  , run 0xA76A "et et is is"
  , run 0xA778 "um"
  , run 0xA78E "l * n n c c c h b b f f"
  , run 0xA7A0 "g g k k n n r r s s h * * l i q * * j * * * * * u u"
  , run 0xA7C4 "c s z d d s s"
  , run 0xA7F2 "c f q * * * h oe"
  , run 0xAB34 "e * * l l l m n"
  , run 0xAB46 "r * * r * * * * u * ui * u * * * x x x x y * * l l u * * * uo * * * * * w"
  , run 0xFB00 "ff fi fl ffi ffl st st"
  , run 0xFF10 "0 1 2 3 4 5 6 7 8 9"
  , run 0xFF21 "a b c d e f g h i j k l m n o p q r s t u v w x y z"
  , run 0xFF41 "a b c d e f g h i j k l m n o p q r s t u v w x y z" ]

/-- Latin letters written above the letter in front of them. -/
def marks : List Run :=
  [ run 0x345 "_"
  , run 0x363 "a e i o u c d h m r t v x" ]

/-- Letters that are used as symbols, raised and lowered letters and digits. -/
def symbols : List Run :=
  [ run 0x2070 "0 i * * 4 5 6 7 8 9 * * * * * n 0 1 2 3 4 5 6 7 8 9"
  , run 0x2090 "a e o x @ h k l m n p s t"
  , run 0x2102 "c * * * * e * * g h h h h h i i l l * n * * * p q r r r"
  , run 0x2124 "z * o * z * k a b c * e e f * m o ' b g d i * * p g g p * * * * * d d e i j" ]

/-- Fractions, Roman numerals and numbers in circles, in brackets or with a point. -/
def numbers : List Run :=
  [ run 0x2150 (
        "1/7 1/9 1/10 1/3 2/3 1/5 2/5 3/5 4/5 1/6 5/6 1/8 3/8 5/8 7/8 1/ i ii iii iv v vi " ++
        "vii viii ix x xi xii l c d m i ii iii iv v vi vii viii ix x xi xii l c d m (d d) " ++
        "((|)) ) * * * * * 0/3")
  , run 0x2460 (
        "1 2 3 4 5 6 7 8 9 10 11 12 13 14 15 16 17 18 19 20 (1) (2) (3) (4) (5) (6) (7) " ++
        "(8) (9) (10) (11) (12) (13) (14) (15) (16) (17) (18) (19) (20) 1. 2. 3. 4. 5. 6. " ++
        "7. 8. 9. 10. 11. 12. 13. 14. 15. 16. 17. 18. 19. 20.")
  , run 0x24B6 (
        "a b c d e f g h i j k l m n o p q r s t u v w x y z a b c d e f g h i j k l m n " ++
        "o p q r s t u v w x y z 0 11 12 13 14 15 16 17 18 19 20 1 2 3 4 5 6 7 8 9 10 0")
  , run 0x2776 "1 2 3 4 5 6 7 8 9 10 1 2 3 4 5 6 7 8 9 10 1 2 3 4 5 6 7 8 9 10"
  , run 0x3220 "(1) (2) (3) (4) (5) (6) (7) (8) (9) (10)"
  , run 0x3251 "21 22 23 24 25 26 27 28 29 30 31 32 33 34 35"
  , run 0x3280 "1 2 3 4 5 6 7 8 9 10"
  , run 0x32B1 "36 37 38 39 40 41 42 43 44 45 46 47 48 49 50" ]

end Transliteration

end RecordBase
