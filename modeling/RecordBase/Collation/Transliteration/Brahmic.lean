import RecordBase.Collation.Transliteration.Basic

/-!
# Brahmic scripts

The spellings of consonants, vowels and digits of the scripts of South and
South-East Asia. A consonant is spelled without the vowel that it implies.
-/

namespace RecordBase

namespace Transliteration

/-- The scripts of India and Sri Lanka, from Devanagari to Sinhala. -/
def indian : List Run :=
  [ run 0x901 (
        "n n h a a aa i ii u uu r l en e e ai on o o au k kh g gh ng c ch j jh ny tt tth " ++
        "dd ddh nn t th d dh n nnn p ph b bh m y r rr l l lll v sh ss s h oe ooe * ' aa i " ++
        "ii u uu r rr en e e ai on o o au * * aw aum * * * * * ue uue q khh ghh z dddh rh " ++
        "f yy rr ll l ll * * 0 1 2 3 4 5 6 7 8 9 * * a oe ooe aw ue uue * zh * gg jj * " ++
        "ddd bb * n n h * a aa i ii u uu r rr * * e ai * * o au k kh g gh ng c ch j jh ny " ++
        "tt tth dd ddh nn t th d dh n * p ph b bh m y r * l * * * sh ss s h * * * ' aa i " ++
        "ii u uu r rr * * e ai * * o au")
  , run 0x9D7 (
        "+ * * * * rr rh * yy rr ll l ll * * 0 1 2 3 4 5 6 7 8 9 * * * * 1/ 2/ 3/ 4/ * /")
  , run 0xA01 (
        "n n h * a aa i ii u uu * * * * ee ai * * oo au k kh g gh ng c ch j jh ny tt tth " ++
        "dd ddh nn t th d dh n * p ph b bb m y r * l ll * v sh * s h * * * * aa i ii u uu " ++
        "* * * * ee ai * * oo au")
  , run 0xA59 "khh ghh z rr * f"
  , run 0xA66 "0 1 2 3 4 5 6 7 8 9 n _ _ _ g.e.o."
  , run 0xA81 (
        "n n h * a aa i ii u uu r l * * e ai * * o au k kh g gh ng c ch j jh ny tt tth dd " ++
        "ddh nn t th d dh n * p ph b bh m y r * l ll * v sh ss s h * * * ' aa i ii u uu r " ++
        "rr en * e ai on * o au * * * aum")
  , run 0xAE0 "rr ll l ll * * 0 1 2 3 4 5 6 7 8 9"
  , run 0xAF9 "zh"
  , run 0xB01 (
        "n n h * a aa i ii u uu r l * * e ai * * o au k kh g gh ng c ch j jh ny tt tth dd " ++
        "ddh nn t th d dh n * p ph b bh m y r * l ll * v sh ss s h * * * ' aa i ii u uu r " ++
        "rr * * e ai * * o au")
  , run 0xB56 "+ + * * * * rr rh * yy rr ll l ll * * 0 1 2 3 4 5 6 7 8 9 * w"
  , run 0xB82 (
        "n h * a aa i ii u uu * * * e ee ai * o oo au k * * * ng c * j * ny tt * * * nn t " ++
        "* * * n nnn p * * * m y r rr l ll lll v sh ss s h * * * * aa i ii u uu * * * e " ++
        "ee ai * o oo au * * * aum")
  , run 0xBD7 "+"
  , run 0xBE6 "0 1 2 3 4 5 6 7 8 9 +10+ +100+ +1000+"
  , run 0xC01 (
        "n n h * a aa i ii u uu r l * e ee ai * o oo au k kh g gh ng c ch j jh ny tt tth " ++
        "dd ddh nn t th d dh n * p ph b bh m y r rr l ll lll v sh ss s h * * * ' aa i ii " ++
        "u uu r rr * e ee ai * o oo au")
  , run 0xC55 "+ + * ts dz rrr * * * * * rr ll l ll * * 0 1 2 3 4 5 6 7 8 9"
  , run 0xC81 (
        "n n h * a aa i ii u uu r l * e ee ai * o oo au k kh g gh ng c ch j jh ny tt tth " ++
        "dd ddh nn t th d dh n * p ph b bh m y r rr l ll * v sh ss s h * * * ' aa i ii u " ++
        "uu r rr * e ee ai * o oo au")
  , run 0xCD5 "+ +"
  , run 0xCDE "lll * rr ll l ll * * 0 1 2 3 4 5 6 7 8 9"
  , run 0xD01 (
        "n n h * a aa i ii u uu r l * e ee ai * o oo au k kh g gh ng c ch j jh ny tt tth " ++
        "dd ddh nn t th d dh n nnn p ph b bh m y r rr l ll lll v sh ss s h ttt * * ' aa i " ++
        "ii u uu r rr * e ee ai * o oo au")
  , run 0xD57 "+"
  , run 0xD60 "rr ll l ll * * 0 1 2 3 4 5 6 7 8 9"
  , run 0xD82 (
        "n h * a aa ae aae i ii u uu r rr l ll e ee ai o oo au * * * k kh g gh ng nng c " ++
        "ch j jh ny jny nyj tt tth dd ddh nn nndd t th d dh n * nd p ph b bh m mb y r * l " ++
        "* * v sh ss s h ll f")
  , run 0xDCF "aa ae aae i ii u * uu * r e ee ai o oo au l" ]

/-- Thai letters, vowels and digits. -/
def thai : List Run :=
  [ run 0xE01 (
        "k kh kh kh kh kh ng cch ch ch ch ch y d t th th th n d t th th th n b p ph f ph " ++
        "f ph m y r r l l w s s s h l ` h ~ a a aa am i ii ue uue u uu ' * * * * * e ae o " ++
        "ai ai ao +")
  , run 0xE4D "m * * 0 1 2 3 4 5 6 7 8 9" ]

/-- Lao letters, vowels and digits. -/
def lao : List Run :=
  [ run 0xE81 "k kh * kh * * ng ch * s * * ny"
  , run 0xE94 (
        "d h th th * n b p ph f ph f * m y r * l * w * * s h * ` _ ~ a _ aa am i ii y yy " ++
        "u uu * o l ny * * e ei o ay ai * +")
  , run 0xECD "m * * 0 1 2 3 4 5 6 7 8 9 * * hn hm" ]

/-- Tibetan letters and digits. -/
def tibetan : List Run :=
  [ run 0xF00 "aum"
  , run 0xF20 "0 1 2 3 4 5 6 7 8 9 .5 1.5 2.5 3.5 4.5 5.5 6.5 7.5 8.5 -.5"
  , run 0xF40 (
        "k kh g gh ng c ch j * ny tt tth dd ddh nn t th d dh n p ph b bh m ts tsh dz dzh " ++
        "w zh z ' y r l sh ssh s h a kss r kk rr * * * * aa i ii u uu r rr l ll e ee o oo " ++
        "m h i ii")
  , run 0xF90 (
        "k kh g gh ng c ch j * ny tt tth dd ddh nn t th d dh n p ph b bh m ts tsh dz dzh " ++
        "w zh z ' y r l sh ss s h a kss w y r") ]

/-- Burmese letters and digits. -/
def burmese : List Run :=
  [ run 0x1000 (
        "k kh g gh ng c ch j jh ny nny tt tth dd ddh nn tt th d dh n p ph b bh m y r l w " ++
        "s h ll a * i ii u uu e * o au * aa i ii u uu e ai * * * n * :")
  , run 0x1040 "0 1 2 3 4 5 6 7 8 9"
  , run 0x1050 "sh ss r rr l ll r rr l ll" ]

/-- Khmer letters, vowels and digits. -/
def khmer : List Run :=
  [ run 0x1780 (
        "k kh g gh ng c ch j jh ny t tth d ddh nn t th d dh n p ph b bh m y r l v sh ss s " ++
        "h l q a aa i ii u uk uu uuv ry ryy ly lyy e ai oo oo au * * aa i ii y yy u uu ua " ++
        "oe ya ie e ae ai oo au m h")
  , run 0x17E0 "0 1 2 3 4 5 6 7 8 9" ]

end Transliteration

end RecordBase
