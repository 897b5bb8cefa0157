import Fieldwork.Text.Property

namespace Fieldwork.Text

/-!
# Segments of texts

What a character contributes to the boundaries of clusters, words and sentences.
Each of the three properties divides the characters; the sets below are its
values, without the one that stands for no contribution.
-/

/-- Marks that form a cluster with the character before them. -/
def spacingMarks : CharSet :=
  (((ofCategories ["Mc"]).difference graphemeExtend).difference
    (CharSet.readLines
      [ "102B-102C 1038 1062-1064 1067-106D 1083 1087-108C 108F 109A-109C 1A61 1A63-1A64 AA7B AA7D"
      , "11720-11721"
      ])).union
    (CharSet.read "E33 EB3")

/-- Characters that form a cluster with the one behind them. -/
def prependers : CharSet :=
  CharSet.readLines
    [ "600-605 6DD 70F 890-891 8E2 D4E 110BD 110CD 111C2-111C3 113D1 1193F 11941 11A3A"
    , "11A84-11A89 11D46 11F02"
    ]

/-- Syllables without a final consonant. -/
def openSyllables : CharSet :=
  CharSet.ofRanges ((List.range 399).map fun index => (0xAC00 + 28 * index, 0xAC00 + 28 * index))

/-- Characters that end a line where they stand alone. -/
def lineBreakers : List (List String × CharSet) :=
  [(["cr"], CharSet.read "D"), (["lf"], CharSet.read "A")]

/-- Format characters apart from those that ask for joining. -/
def formatters : CharSet :=
  (ofCategories ["Cf"]).difference (CharSet.unions [joinControls, graphemeExtend, prependers])

/-- What characters contribute to the boundaries of clusters, by their names. -/
def graphemeBreaks : List (List String × CharSet) :=
  lineBreakers ++
  [(["cn", "control"],
      ((ofCategories ["Zl", "Zp", "Cc", "Cf"]).union
        ((ofCategories ["Cn"]).intersection defaultIgnorable)).difference
        (CharSet.unions
          [CharSet.read "A D", joinControls, prependers, graphemeExtend])),
    (["ex", "extend"],
      (graphemeExtend.union emojiModifiers).difference (CharSet.read "200D")),
    (["l"], CharSet.read "1100-115F A960-A97C"),
    (["lv"], openSyllables),
    (["lvt"], (CharSet.read "AC00-D7A3").difference openSyllables),
    (["pp", "prepend"], prependers),
    (["ri", "regionalindicator"], regionalIndicators),
    (["sm", "spacingmark"], spacingMarks),
    (["t"], CharSet.read "11A8-11FF D7CB-D7FB"),
    (["v"], CharSet.read "1160-11A7 D7B0-D7C6 16D63 16D67-16D6A"),
    (["zwj"], CharSet.read "200D")]

/-- Marks inside a word and a sentence. -/
def extendingMarks : CharSet :=
  graphemeExtend.union (ofCategories ["Mc"])

/-- Letters of the script that uses quotation marks inside its words. -/
def quotingLetters : CharSet :=
  CharSet.read
    "5D0-5EA 5EF-5F2 FB1D FB1F-FB28 FB2A-FB36 FB38-FB3C FB3E FB40-FB41 FB43-FB44 FB46-FB4F"

/-- The letters and signs of a syllabary that is written without spaces. -/
def syllabary : CharSet :=
  CharSet.readLines
    [ "3031-3035 309B-309C 30A0-30FA 30FC-30FF 31F0-31FF 32D0-32FE 3300-3357 FF66-FF9D 1AFF0-1AFF3"
    , "1AFF5-1AFFB 1AFFD-1AFFE 1B000 1B120-1B122 1B155 1B164-1B167"
    ]

/-- Alphabetic characters whose words are told apart by a dictionary. -/
def unspacedLetters : CharSet :=
  CharSet.readLines
    [ "E01-E30 E32-E33 E40-E46 E81-E82 E84 E86-E8A E8C-EA3 EA5 EA7-EB0 EB2-EB3 EBD EC0-EC4 EC6"
    , "EDC-EDF 1000-102A 103F 1050-1055 105A-105D 1061 1065-1066 106E-1070 1075-1081 108E 1780-17B3"
    , "17D7 17DC 1950-196D 1970-1974 1980-19AB 19B0-19C9 1A20-1A54 1AA7 3041-3096 309D-309F"
    , "A9E0-A9E4 A9E6-A9EF A9FA-A9FE AA60-AA76 AA7A AA7E-AAAF AAB1 AAB5-AAB6 AAB9-AABD AAC0 AAC2"
    , "AADB-AADD 11700-1171A 11740-11746 1B001-1B11F 1B132 1B150-1B152"
    ]

/-- Letters of words, and the signs that count as such. -/
def wordLetters : CharSet :=
  (alphabetic.difference
    (CharSet.unions
      [ideographs, extendingMarks, emojiModifiers, quotingLetters, syllabary,
        unspacedLetters])).union
    (CharSet.readLines
      [ "2C2-2C5 2D2-2D7 2DE-2DF 2E5-2EB 2ED 2EF-2FF 55A-55C 55E 58A 5F3 70F A708-A716"
      , "A720-A721 A789-A78A AB5B"
      ])

/-- Digits and the signs that belong to numbers. -/
def numberChars : CharSet :=
  CharSet.unions
    [decimalDigits, prependedMarks.difference (CharSet.read "70F"), CharSet.read "66B"]

/-- What characters contribute to the boundaries of words, by their names. -/
def wordBreaks : List (List String × CharSet) :=
  lineBreakers ++
  [(["dq", "doublequote"], CharSet.read "22"),
    (["ex", "extendnumlet"],
      (ofCategories ["Pc"]).union (CharSet.read "202F")),
    (["extend"],
      (extendingMarks.union emojiModifiers).difference (CharSet.read "200D")),
    (["fo", "format"], formatters.difference (CharSet.read "200B")),
    (["hl", "hebrewletter"], quotingLetters),
    (["ka", "katakana"], syllabary),
    (["le", "aletter"], wordLetters),
    (["mb", "midnumlet"], CharSet.read "2E 2018-2019 2024 FE52 FF07 FF0E"),
    (["ml", "midletter"], CharSet.read "3A B7 387 55F 5F4 2027 FE13 FE55 FF1A"),
    (["mn", "midnum"],
      CharSet.read "2C 3B 37E 589 60C-60D 66C 7F8 2044 FE10 FE14 FE50 FE54 FF0C FF1B"),
    (["nl", "newline"], CharSet.read "B-C 85 2028-2029"),
    (["nu", "numeric"], numberChars),
    (["ri", "regionalindicator"], regionalIndicators),
    (["sq", "singlequote"], CharSet.read "27"),
    (["wsegspace"], CharSet.read "20 1680 2000-2006 2008-200A 205F 3000"),
    (["zwj"], CharSet.read "200D")]

/-- Marks that may end a sentence or an abbreviation. -/
def fullStops : CharSet :=
  CharSet.read "2E 2024 FE52 FF0E"

/-- Letters without the case that begins sentences. -/
def plainCased : CharSet :=
  CharSet.read "10D0-10FA 10FD-10FF 1C90-1CBA 1CBD-1CBF"

/-- Small letters as sentences see them. -/
def sentenceLower : CharSet :=
  lowercase.difference (graphemeExtend.union plainCased)

/-- Capital letters as sentences see them. -/
def sentenceUpper : CharSet :=
  (uppercase.union titlecase).difference plainCased

/-- What characters contribute to the boundaries of sentences, by their names. -/
def sentenceBreaks : List (List String × CharSet) :=
  lineBreakers ++
  [(["at", "aterm"], fullStops),
    (["cl", "close"],
      ((CharSet.unions [ofCategories ["Ps", "Pe", "Pi", "Pf"], quotationMarks]).difference
        (CharSet.read "FF02 FF07")).union
        (CharSet.read "275B-2760 2E00-2E01 2E06-2E08 2E0B 1F676-1F678")),
    (["ex", "extend"], extendingMarks.union (CharSet.read "200D")),
    (["fo", "format"], formatters),
    (["le", "oletter"],
      (alphabetic.difference
        (CharSet.unions [sentenceLower, sentenceUpper, extendingMarks])).union
        (CharSet.read "5F3")),
    (["lo", "lower"], sentenceLower),
    (["nu", "numeric"], numberChars.union (CharSet.read "66C")),
    (["sc", "scontinue"],
      CharSet.readLines
          [ "2C-2D 3A-3B 37E 55D 60C-60D 7F8 1802 1808 2013-2014 3001 FE10-FE11 FE13-FE14 FE31-FE32"
          , "FE50-FE51 FE54-FE55 FE58 FE63 FF0C-FF0D FF1A-FF1B FF64"
          ]),
    (["se", "sep"], CharSet.read "85 2028-2029"),
    (["sp"],
      whiteSpace.difference (CharSet.read "A D 85 2028-2029")),
    (["st", "sterm"], sentenceTerminals.difference fullStops),
    (["up", "upper"], sentenceUpper)]

end Fieldwork.Text
