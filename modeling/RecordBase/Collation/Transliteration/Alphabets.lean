import RecordBase.Collation.Transliteration.Basic

/-!
# Alphabets

The spellings of the letters of alphabets and consonant scripts from Greek to
Mongolian.
-/

namespace RecordBase

namespace Transliteration

/-- Greek letters, also with the marks of the ancient language, and Coptic ones. -/
def greek : List Run :=
  [ run 0x370 "h h t t * * w w * * * s s s * j"
  , run 0x386 (
        "a * e e i * o * u o i a b g d e z e th i k l m n ks o p r * s t u ph kh ps o i u " ++
        "a e e i u a b g d e z e th i k l m n x o p r s s t u ph kh ps o i u o u o * b th " ++
        "u u u ph p & q q st st w w q q sp sp sh sh f f kh kh h h g g ch ch ti ti k r c j " ++
        "th e * sh sh s s s r s s s")
  , run 0x1F00 (
        "a a a a a a a a a a a a a a a a e e e e e e * * e e e e e e * * e e e e e e e e " ++
        "e e e e e e e e i i i i i i i i i i i i i i i i o o o o o o * * o o o o o o * * " ++
        "u u u u u u u u * u * u * u * u o o o o o o o o o o o o o o o o a a e e e e i i " ++
        "o o u u o o * * a a a a a a a a a a a a a a a a e e e e e e e e e e e e e e e e " ++
        "o o o o o o o o o o o o o o o o a a a a a * a a a a a a a * i * * * e e e * e e " ++
        "e e e e e * * * i i i i * * i i i i i i * * * * u u u u r r u u u u u u r * * * " ++
        "* * o o o * o o o o o o o") ]

/-- Cyrillic letters. -/
def cyrillic : List Run :=
  [ run 0x400 (
        "ie io dj gj e dz i yi j lj nj tsh kj i u dzh a b v g d e zh z i i k l m n o p r " ++
        "s t u f kh ts ch sh shch ' y ' e iu ia a b v g d e zh z i i k l m n o p r s t u " ++
        "f kh ts ch sh shch ' y ' e iu ia ie io dj gj ie dz i yi j lj nj tsh kj i u dzh o " ++
        "o e e ie ie e e ie ie o o io io ks ks ps ps f f y y y y u u o o o o ot ot q q")
  , run 0x48A (
        "jh jh \" \" r' r' g' g' g' g' g' g' zh' zh' z' z' k' k' k' k' k' k' k' k' n' n' " ++
        "ng ng p' p' kh kh s' s' t' t' u u u' u' kh' kh' tts tts ch' ch' ch' ch' h h ch " ++
        "ch ch' ch' ` zh zh k' k' lh lh n' n' nh nh ch ch mh mh h a a a a ae ae ie ie @ @ " ++
        "@ @ zh zh z z dz dz i i i i o o o o o o e e u u u u u u ch ch gh gh y y * * x x " ++
        "h h d d dj dj z z dz dz l l n n s s t t r r l' l' lh lh rh rh ya ya q q w w kh " ++
        "kh l l n n p p h' h' n n * * * * l l") ]

/-- Armenian letters and ligatures. -/
def armenian : List Run :=
  [ run 0x531 (
        "a b g d e z e e t` zh i l kh ts k h dz gh ch m y n sh o ch` p j rh s v t r ts` w " ++
        "p` k` o f * * <")
  , run 0x561 (
        "a b g d e z e e t` zh i l kh ts k h dz gh ch m y n sh o ch` p j rh s v t r ts` w " ++
        "p` k` o f ew")
  , run 0xFB13 "mn me mi vn mkh" ]

/-- Georgian letters, the capitals of the church script first. -/
def georgian : List Run :=
  [ run 0x10A0 (
        "a b g d e v z t` i k l m n o p zh r s t u p` k` g' q sh ch` c` z' c ch x j h e y " ++
        "w xh oe")
  , run 0x10D0 (
        "a b g d e v z t` i k l m n o p zh r s t u p` k` g' q sh ch` c` z' c ch x j h e y " ++
        "w xh oe f") ]

/-- Hebrew letters and points. Alef is an apostrophe and ayin a grave accent. -/
def hebrew : List Run :=
  [ run 0x5B0 "@ e a o i e e a a o o u ' * * _ * _ _ * _ _ * o"
  , run 0x5D0 (
        "' b g d h v z kh t y k k l m m n n s ` p p ts ts q r sh t * * * * yyy v oy i")
  , run 0xFB1D (
        "yi _ ay ` a d h k l m t t * sh sh sh sh ' ' ' b g d h v z * t y k k l * m * n s " ++
        "* p p * ts q r sh t v b k p 'l") ]

/-- Arabic letters, vowel marks and digits. -/
def arabic : List Run :=
  [ run 0x620 (
        "y ' a ' w' ' y' _ b @ t th j h kh d dh r z s sh s d t z ` g * * * * * _ f q k l " ++
        "m n h w ~ y an un in a u i w")
  , run 0x660 "0 1 2 3 4 5 6 7 8 9"
  , run 0x670 (
        "a ' ' ' _ ' 'w 'u 'y tt tth b t t p th bh 'h h ny dy h ch cch dd d d dt dh ddh d " ++
        "d d rr r r r r r r j r s s s s s t gh f f f v f ph q q kh k k k ng k g g n g g g " ++
        "l l l l n n n n n h ch hy h h @ w oe oe u yu yu w v y y y w e y y y' * ae")
  , run 0x6F0 "0 1 2 3 4 5 6 7 8 9 sh d gh" ]

/-- Syriac letters. -/
def syriac : List Run :=
  [ run 0x710 "' ` b g g d d h w z h t t y yh k l m n s s ` p p s q r sh t" ]

/-- Thaana letters and vowels. -/
def thaana : List Run :=
  [ run 0x780 (
        "h sh n r b l k ' v m f dh th l g ny s d z t y p j ch tt hh kh th z sh s d t z ` " ++
        "gh q w a aa i ee u oo e ey o oa _") ]

/-- Ogham letters. -/
def ogham : List Run :=
  [ run 0x1681 "b l f s n h d t c q m g ng z r a o u e i ch th ph p x p" ]

/-- Runes. -/
def runic : List Run :=
  [ run 0x16A0 (
        "f v u yr y w th th a o ac ae o o o oe on r k c k g ng g g w h h h h n n n i e j " ++
        "g ae a eo p z s s s c z t t d b b p p e m m m l l ng ng d o ear ior qu qu qu s r " ++
        "r r q x * * * 17 18 19") ]

/-- Mongolian letters and digits. -/
def mongolian : List Run :=
  [ run 0x1810 "0 1 2 3 4 5 6 7 8 9"
  , run 0x1820 (
        "a e i o u o u ee n ng b p q g m l s sh t d ch j y r w f k kha ts z h zr lh zh ch") ]

end Transliteration

end RecordBase
