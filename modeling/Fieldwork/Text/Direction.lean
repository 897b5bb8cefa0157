import Fieldwork.Text.Division

namespace Fieldwork.Text

/-!
# Directions of characters

Letters are written from the left or from the right, numbers take the direction
of what stands around them, and neutral characters and marks follow others.  The
division is that of version 17 of the standard for the characters that a domain
may hold; the code points between them belong to the run before them.
-/

/-- How a character takes part in the direction of a text. -/
inductive Direction where
  /-- A letter that is written from the left. -/
  | left
  /-- A letter that is written from the right. -/
  | right
  /-- A digit that keeps its direction among all letters. -/
  | number
  /-- A digit that goes with letters from the right. -/
  | arabicNumber
  /-- A character between letters or numbers that has no direction of its own. -/
  | neutral
  /-- A mark, which has the direction of the character that it stands on. -/
  | mark
  /-- A character that ends a line or a field. -/
  | separator
  deriving DecidableEq, Repr

namespace Direction

def runs : List String :=
  [ "N9X5N14X5N15E10N39L26N100L24NL449N2L7N14L2N28LN17M113L4N2L127N2L139M8L255N7M45RMRM2RM2RM9R54"
  , "N2RN2RNRN2M11R48M21A10NA2R3MR101M8NM6R2M2NM4R2E10R23MR30M29R89M11R58M9R2N4R3MR24M4RM9RM3RM7"
  , "R41M5R57M9R42M57L55MLML4M8L4ML3M15L2M2L29ML58ML4M6L6ML20M4L12N2L7NL2M5L57M2L3M27L20M2L3ML11"
  , "M2L57ML4M8L4M3L18M4L11N8LM8L58ML2MLM6L6M10L11M4L28ML61ML12M3L35N13ML3ML55MLM3L5M18L10M4L18N7"
  , "L2ML58ML15M9L13M4L26M2L57M2L4M5L7ML20M4L27ML72M5L3M6L89ML2M11NL7M8L98ML2M9L11M8L72M2L27MLMLM"
  , "N4L51M14LM5LM2L5M49L8ML102M4LM6LM2L2M2L25M2L4M3L16M4L13ML2M2L6ML15ML703M3L48N16L96NL666N5"
  , "L114M3L29M2L30M14L18M14L55M7L8ML2M11L7NLM3L16N32L117M2L34ML118M3L4M2L9ML6M7N6L152N34L23M2L2"
  , "M3L56MLM9LML2M8L6M13L48M84L48MLM5LML5ML40M9L12M2L32M4L2M2LM3L56MLM2L3MLM3L58M8L2M5L149M3LM13"
  , "LM7L4ML6ML3M2L198M65L523N196M52N74L60N428L69N26LN790LN339L256N816L181N7L3M4L6N7L127ML96M32"
  , "N517L3N25L9M4L2NL6N4L2N4L88M4L3NL90NL196N48L7120N64L22160N64L317N3L95M4NM10N3L29M2L80M2L14"
  , "N35L101NL121ML3ML4ML25M2LN4M4L8N8L52N12L68M10L18M18L13ML38M8L25M11L46M3L48ML2M4L2M2L39ML67M6"
  , "L2M2L2M11L3ML8ML47ML51MLM3L2M2L5M2LML42M2L8M11L105N86L37ML2ML4M3L20270M148R17N605M37N46R397"
  , "L257NL62N77L3N64L45M131L96ME31L118M10L1152R287NR225M15R40M8R165M6R78N7R484M12A16R41M5NR241"
  , "A32R43M2R35N42M6R70M11R49M4R122LML54M15L11N20L10ML2M2L10M3L49M4L2M2L7M14L48M3L36M5LM9L61ML12"
  , "M2L52M9L10M4L2ML95M3L2MLM2L6ML2M63L95ML3M13L16M2L57M2L3ML37M26L59M7L12MLMLML14M31L56M8L2M3LM"
  , "L23ML84M6LML4M2LM2L238M6L4M2LM2L27M36L51M8L2MLM2L31N32L43MLML2M6LML101M3L2M4LM9L255M9LM2L256"
  , "M2LML4ML144M8L4ML32M6L2M2L40M6L2M4L8M9LM6L2M3L46M13LM2L198MLM3LML201M14L84M23LM7LM2LM75L49"
  , "M21LM9L64M3L2MLML347M2L11M2L52M8L2MLML146N42L5185ML6M25L11454M12L3M3L2496M5L59M7L1048ML63M4"
  , "L79NLM12L19629M2L3937N768M80L535M3L17M8L2M7L30M4L59N89M3N123L64N96L1696M55L4M50L8ML14ML22"
  , "M1125L256M256L48M7L375M18L44M4L15N465L28M4L254M2L243ML2ML7M2L5M9L258R208M82R34M7R1445N608L29"
  , "N3L61N57L122N3488L983040"
  ]

/-- The division of the code points by direction. -/
def division : Division :=
  Division.read 1 runs

/-- The direction behind each label of the division. -/
def ofLabel :
    String →
    Direction
  | "L" => left
  | "R" => right
  | "E" => number
  | "A" => arabicNumber
  | "N" => neutral
  | "M" => mark
  | _ => separator

def ofCode
    (code : Nat) :
    Direction :=
  ((division.labelOf? code).map ofLabel).getD left

end Direction

end Fieldwork.Text
