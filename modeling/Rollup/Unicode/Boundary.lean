import Rollup.Unicode.Partition

/-!
# Classes of characters at text boundaries

The standard finds the boundaries between user-perceived characters, words and
sentences by rules over classes of characters.  These are the three tables of
classes, from its version 16.  Most code points are in no class that a rule
mentions; they are listed as `XX`, which no pattern can ask for.
-/

namespace Rollup.Unicode.Boundary

/-- The classes for boundaries between user-perceived characters. -/
def grapheme : Partition where
  table :=
  "10CN LF 2CN CR 18CN 95XX 33CN 13XX CN 594XX 112EX 275XX 7EX 263XX 45EX XX EX XX 2EX XX 2EX XX
  EX 56XX 6PP 10XX 11EX XX CN 46XX 21EX 16XX EX 101XX 7EX PP XX 6EX 2XX 2EX XX 4EX 33XX PP XX EX
  30XX 27EX 91XX 11EX 58XX 9EX 9XX EX 24XX 4EX XX 9EX XX 3EX XX 5EX 43XX 3EX 52XX 2PP 5XX 9EX
  42XX 24EX PP 32EX SM 54XX EX SM EX XX 3SM 8EX 4SM EX 2SM XX 7EX 10XX 2EX 29XX EX 2SM 56XX EX XX
  EX 2SM 4EX 2XX 2SM 2XX 2SM EX 9XX EX 10XX 2EX 26XX EX 2XX 2EX SM 56XX EX XX 3SM 2EX 4XX 2EX 2XX
  3EX 3XX EX 30XX 2EX 3XX EX 11XX 2EX SM 56XX EX XX 3SM 5EX XX 2EX SM XX 2SM EX 20XX 2EX 22XX 6EX
  XX EX 2SM 56XX EX XX 2EX SM 4EX 2XX 2SM 2XX 2SM EX 7XX 3EX 10XX 2EX 30XX EX 59XX EX SM EX 2SM
  3XX 3SM XX 3SM EX 9XX EX 40XX EX 3SM EX 55XX EX XX 3EX 4SM XX 3EX XX 4EX 7XX 2EX 11XX 2EX 29XX
  EX 2SM 56XX EX XX SM 2EX SM EX 2SM XX 3EX XX 4EX 7XX 2EX 11XX 2EX 15XX SM 12XX 2EX 2SM 55XX 2EX
  XX EX 2SM 4EX XX 3SM XX 3SM EX PP 8XX EX 10XX 2EX 29XX EX 2SM 70XX EX 4XX EX 2SM 3EX XX EX XX
  7SM EX 18XX 2SM 61XX EX XX SM 7EX 12XX 8EX 98XX EX XX SM 9EX 11XX 7EX 73XX 2EX 27XX EX XX EX XX
  EX 4XX 2SM 49XX 14EX SM 5EX XX 2EX 5XX 11EX XX 36EX 9XX EX 102XX 4EX SM 6EX XX 2EX 2SM 2EX 23XX
  2SM 2EX 4XX 3EX 16XX 4EX 13XX EX XX SM 2EX 6XX EX 15XX EX 98XX 96L 72V 88T 349XX 3EX 946XX 4EX
  28XX 3EX 29XX 2EX 30XX 2EX 64XX 2EX SM 7EX 8SM EX 2SM 11EX 9XX EX 45XX 3EX CN EX 117XX 2EX 34XX
  EX 118XX 3EX 4SM 2EX 3SM 4XX 2SM EX 6SM 3EX 219XX 2EX 2SM EX 57XX SM EX SM 7EX XX EX XX EX 2XX
  8EX 6SM 10EX 2XX EX 48XX 31EX 49XX 4EX SM 47XX 10EX 4SM 3EX 38XX 9EX 12XX 2EX SM 30XX SM 4EX
  2SM 6EX 56XX EX SM 2EX 3SM EX SM 5EX 48XX 8SM 8EX 2SM 2EX 152XX 3EX XX 13EX SM 7EX 4XX EX 6XX
  EX 2XX SM 2EX 198XX 64EX 523XX CN EX ZWJ 2CN 24XX 7CN 49XX 16CN 96XX 33EX 3070XX 3EX 141XX EX
  96XX 32EX 554XX 6EX 105XX 2EX 30164XX 4EX XX 10EX 32XX 2EX 80XX 2EX 272XX EX 3XX EX 4XX EX 23XX
  2SM 2EX SM 4XX EX 83XX 2SM 50XX 16SM 2EX 26XX 18EX 13XX EX 38XX 8EX 25XX 11EX SM EX 12XX 29L
  3XX 3EX SM 47XX EX 2SM 4EX 2SM 2EX 2SM EX 36XX EX 67XX 6EX 2SM 2EX 2SM 2EX 12XX EX 8XX EX SM
  46XX EX 51XX EX XX 3EX 2XX 2EX 5XX 2EX XX EX 41XX SM 2EX 2SM 5XX SM EX 236XX 2SM EX 2SM EX 2SM
  XX SM EX 18XX LV 27LVT LV 27LVT LV 27LVT LV 27LVT LV 27LVT LV 27LVT LV 27LVT LV 27LVT LV 27LVT
  LV 27LVT LV 27LVT LV 27LVT LV 27LVT LV 27LVT LV 27LVT LV 27LVT LV 27LVT LV 27LVT LV 27LVT LV
  27LVT LV 27LVT LV 27LVT LV 27LVT LV 27LVT LV 27LVT LV 27LVT LV 27LVT LV 27LVT LV 27LVT LV 27LVT
  LV 27LVT LV 27LVT LV 27LVT LV 27LVT LV 27LVT LV 27LVT LV 27LVT LV 27LVT LV 27LVT LV 27LVT LV
  27LVT LV 27LVT LV 27LVT LV 27LVT LV 27LVT LV 27LVT LV 27LVT LV 27LVT LV 27LVT LV 27LVT LV 27LVT
  LV 27LVT LV 27LVT LV 27LVT LV 27LVT LV 27LVT LV 27LVT LV 27LVT LV 27LVT LV 27LVT LV 27LVT LV
  27LVT LV 27LVT LV 27LVT LV 27LVT LV 27LVT LV 27LVT LV 27LVT LV 27LVT LV 27LVT LV 27LVT LV 27LVT
  LV 27LVT LV 27LVT LV 27LVT LV 27LVT LV 27LVT LV 27LVT LV 27LVT LV 27LVT LV 27LVT LV 27LVT LV
  27LVT LV 27LVT LV 27LVT LV 27LVT LV 27LVT LV 27LVT LV 27LVT LV 27LVT LV 27LVT LV 27LVT LV 27LVT
  LV 27LVT LV 27LVT LV 27LVT LV 27LVT LV 27LVT LV 27LVT LV 27LVT LV 27LVT LV 27LVT LV 27LVT LV
  27LVT LV 27LVT LV 27LVT LV 27LVT LV 27LVT LV 27LVT LV 27LVT LV 27LVT LV 27LVT LV 27LVT LV 27LVT
  LV 27LVT LV 27LVT LV 27LVT LV 27LVT LV 27LVT LV 27LVT LV 27LVT LV 27LVT LV 27LVT LV 27LVT LV
  27LVT LV 27LVT LV 27LVT LV 27LVT LV 27LVT LV 27LVT LV 27LVT LV 27LVT LV 27LVT LV 27LVT LV 27LVT
  LV 27LVT LV 27LVT LV 27LVT LV 27LVT LV 27LVT LV 27LVT LV 27LVT LV 27LVT LV 27LVT LV 27LVT LV
  27LVT LV 27LVT LV 27LVT LV 27LVT LV 27LVT LV 27LVT LV 27LVT LV 27LVT LV 27LVT LV 27LVT LV 27LVT
  LV 27LVT LV 27LVT LV 27LVT LV 27LVT LV 27LVT LV 27LVT LV 27LVT LV 27LVT LV 27LVT LV 27LVT LV
  27LVT LV 27LVT LV 27LVT LV 27LVT LV 27LVT LV 27LVT LV 27LVT LV 27LVT LV 27LVT LV 27LVT LV 27LVT
  LV 27LVT LV 27LVT LV 27LVT LV 27LVT LV 27LVT LV 27LVT LV 27LVT LV 27LVT LV 27LVT LV 27LVT LV
  27LVT LV 27LVT LV 27LVT LV 27LVT LV 27LVT LV 27LVT LV 27LVT LV 27LVT LV 27LVT LV 27LVT LV 27LVT
  LV 27LVT LV 27LVT LV 27LVT LV 27LVT LV 27LVT LV 27LVT LV 27LVT LV 27LVT LV 27LVT LV 27LVT LV
  27LVT LV 27LVT LV 27LVT LV 27LVT LV 27LVT LV 27LVT LV 27LVT LV 27LVT LV 27LVT LV 27LVT LV 27LVT
  LV 27LVT LV 27LVT LV 27LVT LV 27LVT LV 27LVT LV 27LVT LV 27LVT LV 27LVT LV 27LVT LV 27LVT LV
  27LVT LV 27LVT LV 27LVT LV 27LVT LV 27LVT LV 27LVT LV 27LVT LV 27LVT LV 27LVT LV 27LVT LV 27LVT
  LV 27LVT LV 27LVT LV 27LVT LV 27LVT LV 27LVT LV 27LVT LV 27LVT LV 27LVT LV 27LVT LV 27LVT LV
  27LVT LV 27LVT LV 27LVT LV 27LVT LV 27LVT LV 27LVT LV 27LVT LV 27LVT LV 27LVT LV 27LVT LV 27LVT
  LV 27LVT LV 27LVT LV 27LVT LV 27LVT LV 27LVT LV 27LVT LV 27LVT LV 27LVT LV 27LVT LV 27LVT LV
  27LVT LV 27LVT LV 27LVT LV 27LVT LV 27LVT LV 27LVT LV 27LVT LV 27LVT LV 27LVT LV 27LVT LV 27LVT
  LV 27LVT LV 27LVT LV 27LVT LV 27LVT LV 27LVT LV 27LVT LV 27LVT LV 27LVT LV 27LVT LV 27LVT LV
  27LVT LV 27LVT LV 27LVT LV 27LVT LV 27LVT LV 27LVT LV 27LVT LV 27LVT LV 27LVT LV 27LVT LV 27LVT
  LV 27LVT LV 27LVT LV 27LVT LV 27LVT LV 27LVT LV 27LVT LV 27LVT LV 27LVT LV 27LVT LV 27LVT LV
  27LVT LV 27LVT LV 27LVT LV 27LVT LV 27LVT LV 27LVT LV 27LVT LV 27LVT LV 27LVT LV 27LVT LV 27LVT
  LV 27LVT LV 27LVT LV 27LVT LV 27LVT LV 27LVT LV 27LVT LV 27LVT LV 27LVT LV 27LVT LV 27LVT LV
  27LVT LV 27LVT LV 27LVT LV 27LVT LV 27LVT LV 27LVT LV 27LVT LV 27LVT LV 27LVT LV 27LVT LV 27LVT
  LV 27LVT LV 27LVT LV 27LVT LV 27LVT LV 27LVT LV 27LVT LV 27LVT LV 27LVT LV 27LVT LV 27LVT LV
  27LVT LV 27LVT LV 27LVT LV 27LVT LV 27LVT LV 27LVT LV 27LVT LV 27LVT LV 27LVT LV 27LVT LV 27LVT
  LV 27LVT LV 27LVT LV 27LVT LV 27LVT LV 27LVT LV 27LVT LV 27LVT LV 27LVT LV 27LVT LV 27LVT LV
  27LVT LV 27LVT LV 27LVT LV 27LVT LV 27LVT LV 27LVT LV 27LVT LV 27LVT LV 27LVT LV 27LVT LV 27LVT
  LV 27LVT LV 27LVT LV 27LVT LV 27LVT LV 27LVT LV 27LVT LV 27LVT LV 27LVT LV 27LVT LV 27LVT LV
  27LVT LV 27LVT 12XX 23V 4XX 49T 8994XX EX 737XX 16EX 16XX 16EX 207XX CN 158XX 2EX 80XX 12CN
  513XX EX 226XX EX 149XX 5EX 1670XX 3EX XX 2EX 5XX 4EX 40XX 3EX 4XX EX 165XX 2EX 573XX 4EX 65XX
  5EX 317XX 2EX 79XX 4EX 70XX 11EX 49XX 4EX 122XX SM EX SM 53XX 15EX 41XX EX 2XX 2EX 10XX 3EX SM
  45XX 3SM 4EX 2SM 2EX 2XX PP 4XX EX 10XX PP 50XX 3EX 36XX 5EX SM 8EX 16XX 2SM 44XX EX 12XX 2EX
  SM 48XX 3SM 9EX SM EX XX 2PP 5XX 4EX XX SM EX 92XX 3SM 3EX 2SM 4EX 6XX EX 2XX EX 157XX EX 3SM
  8EX 21XX 2EX 2SM 55XX 2EX XX EX SM EX 4SM 2XX 2SM 2XX 2SM EX 9XX EX 10XX 2SM 2XX 7EX 3XX 5EX
  67XX EX 2SM 6EX XX EX 2XX EX XX 3EX SM XX 2SM 3EX PP EX 14XX 2EX 82XX 3SM 8EX 2SM 3EX SM EX
  23XX EX 81XX EX 2SM 6EX SM EX 2SM EX SM 2EX SM 2EX 235XX EX 2SM 4EX 2XX 4SM 2EX SM 2EX 27XX 2EX
  82XX 3SM 8EX 2SM EX SM 2EX 106XX EX SM EX 2SM 8EX 101XX EX SM EX 2XX 4EX SM 5EX 256XX 3SM 9EX
  SM 2EX 245XX EX 5SM XX 2SM 2XX 4EX PP SM PP SM EX 141XX 3SM 4EX 2XX 2EX 4SM EX 3XX SM 28XX 10EX
  40XX 6EX SM PP 4EX 8XX EX 9XX 6EX 2SM 3EX 40XX 6PP 13EX SM 2EX 405XX SM 7EX XX 6EX SM EX 82XX
  22EX XX SM 7EX SM 2EX SM 2EX 122XX 6EX 3XX EX XX 2EX XX 7EX PP EX 66XX 5SM XX 2EX XX 2SM EX SM
  EX 347XX 2EX 2SM 9XX 2EX PP SM 48XX 2SM 5EX 3XX 2SM 3EX 23XX EX 5333XX 16CN EX 6XX 15EX 11464XX
  12EX 3SM 3EX 2496XX 5EX 59XX 7EX 556XX V 3XX 4V 484XX EX XX 55SM 7XX 4EX 81XX EX 11XX 2EX
  19627XX 2EX XX 4CN 4700XX 46EX 2XX 23EX 542XX 5EX 3XX 6EX 8CN 8EX 2XX 7EX 30XX 4EX 148XX 3EX
  1979XX 55EX 4XX 50EX 8XX EX 14XX EX 22XX 5EX XX 15EX 1360XX 7EX XX 17EX 2XX 7EX XX 2EX XX 5EX
  100XX EX 160XX 7EX 375XX EX 61XX 4EX 508XX 4EX 254XX 2EX 736XX 7EX 109XX 7EX 2203XX 26RI 507XX
  5EX 789504XX 32CN 96EX 128CN 240EX 3600CN 192512XX"
  values :=
  [
    (["cr"], ["CR"]),
    (["cn", "control"], ["CN"]),
    (["ex", "extend"], ["EX"]),
    (["l"], ["L"]),
    (["lf"], ["LF"]),
    (["lv"], ["LV"]),
    (["lvt"], ["LVT"]),
    (["pp", "prepend"], ["PP"]),
    (["regionalindicator", "ri"], ["RI"]),
    (["sm", "spacingmark"], ["SM"]),
    (["t"], ["T"]),
    (["v"], ["V"]),
    (["zwj"], ["ZWJ"])
  ]

/-- The classes for boundaries between words. -/
def word : Partition where
  table :=
  "10XX LF 2NL CR 18XX WSegSpace XX DQ 4XX SQ 4XX MN XX MB XX 10NU ML MN 5XX 26LE 4XX EX XX 26LE
  10XX NL 36XX LE 2XX FO 7XX LE XX ML 2XX LE 5XX 23LE XX 31LE XX 480LE 6XX 34LE 112Extend 5LE XX
  2LE 2XX 4LE MN LE 6XX LE ML 3LE XX LE XX 20LE XX 83LE XX 139LE XX 7Extend 166LE XX 38LE 2XX 4LE
  XX LE ML 41LE MN LE 6XX 45Extend XX Extend XX 2Extend XX 2Extend XX Extend 8XX 27HL 4XX 4HL LE
  ML 11XX 6NU 6XX 2MN 2XX 11Extend XX FO 3XX 43LE 21Extend 10NU XX NU MN XX 2LE Extend 99LE XX LE
  7Extend NU XX 6Extend 2LE 2Extend XX 4Extend 2LE 10NU 3LE 2XX LE 15XX 2LE Extend 30LE 27Extend
  2XX 89LE 11Extend LE 14XX 10NU 33LE 9Extend 2LE 2XX MN XX LE 2XX Extend 2XX 22LE 4Extend LE
  9Extend LE 3Extend LE 5Extend 18XX 25LE 3Extend 4XX 11LE 5XX 24LE XX 6LE XX 2NU 5XX 9Extend
  42LE 24Extend NU 33Extend 54LE 3Extend LE 18Extend LE 7Extend 10LE 2Extend 2XX 10NU XX 16LE
  3Extend XX 8LE 2XX 2LE 2XX 22LE XX 7LE XX LE 3XX 4LE 2XX Extend LE 7Extend 2XX 2Extend 2XX
  3Extend LE 8XX Extend 4XX 2LE XX 3LE 2Extend 2XX 10NU 2LE 10XX LE XX Extend 2XX 3Extend XX 6LE
  4XX 2LE 2XX 22LE XX 7LE XX 2LE XX 2LE XX 2LE 2XX Extend XX 5Extend 4XX 2Extend 2XX 3Extend 3XX
  Extend 7XX 4LE XX LE 7XX 10NU 2Extend 3LE Extend 11XX 3Extend XX 9LE XX 3LE XX 22LE XX 7LE XX
  2LE XX 5LE 2XX Extend LE 8Extend XX 3Extend XX 3Extend 2XX LE 15XX 2LE 2Extend 2XX 10NU 9XX LE
  6Extend XX 3Extend XX 8LE 2XX 2LE 2XX 22LE XX 7LE XX 2LE XX 5LE 2XX Extend LE 7Extend 2XX
  2Extend 2XX 3Extend 7XX 3Extend 4XX 2LE XX 3LE 2Extend 2XX 10NU XX LE 16XX Extend LE XX 6LE 3XX
  3LE XX 4LE 3XX 2LE XX LE XX 2LE 3XX 2LE 3XX 3LE 3XX 12LE 4XX 5Extend 3XX 3Extend XX 4Extend 2XX
  LE 6XX Extend 14XX 10NU 16XX 5Extend 8LE XX 3LE XX 23LE XX 16LE 2XX Extend LE 7Extend XX
  3Extend XX 4Extend 7XX 2Extend XX 3LE 2XX LE 2XX 2LE 2Extend 2XX 10NU 16XX LE 3Extend XX 8LE XX
  3LE XX 23LE XX 10LE XX 5LE 2XX Extend LE 7Extend XX 3Extend XX 4Extend 7XX 2Extend 6XX 2LE XX
  2LE 2Extend 2XX 10NU XX 2LE Extend 12XX 4Extend 9LE XX 3LE XX 41LE 2Extend LE 7Extend XX
  3Extend XX 4Extend LE 5XX 3LE Extend 7XX 3LE 2Extend 2XX 10NU 10XX 6LE XX 3Extend XX 18LE 3XX
  24LE XX 9LE XX LE 2XX 7LE 3XX Extend 4XX 6Extend XX Extend XX 8Extend 6XX 10NU 2XX 2Extend 61XX
  Extend 2XX 7Extend 12XX 8Extend XX 10NU 87XX Extend 2XX 9Extend 11XX 7Extend XX 10NU 38XX LE
  23XX 2Extend 6XX 10NU 11XX Extend XX Extend XX Extend 4XX 2Extend 8LE XX 36LE 4XX 20Extend XX
  2Extend 5LE 11Extend XX 36Extend 9XX Extend 100XX 20Extend XX 10NU 12XX 4Extend 4XX 3Extend XX
  3Extend 2XX 7Extend 3XX 4Extend 13XX 12Extend XX Extend 10NU 4Extend 2XX 38LE XX LE 5XX LE 2XX
  43LE XX 333LE XX 4LE 2XX 7LE XX LE XX 4LE 2XX 41LE XX 4LE 2XX 33LE XX 4LE 2XX 7LE XX LE XX 4LE
  2XX 15LE XX 57LE XX 4LE 2XX 67LE 2XX 3Extend 32XX 16LE 16XX 86LE 2XX 6LE 3XX 620LE 2XX 17LE
  WSegSpace 26LE 5XX 75LE 3XX 11LE 7XX 18LE 4Extend 9XX 19LE 3Extend 11XX 18LE 2Extend 12XX 13LE
  XX 3LE XX 2Extend 64XX 32Extend 9XX Extend 2XX 10NU 33XX 3Extend FO Extend 10NU 6XX 89LE 7XX
  5LE 2Extend 34LE Extend LE 5XX 70LE 10XX 31LE XX 12Extend 4XX 12Extend 10XX 10NU 128XX 11NU
  37XX 23LE 5Extend 57XX 10Extend XX 29Extend 2XX Extend 10NU 6XX 10NU 22XX 31Extend 49XX 5Extend
  47LE 17Extend 8LE 3XX 10NU 17XX 9Extend 12XX 3Extend 30LE 13Extend 2LE 10NU 44LE 14Extend 12XX
  36LE 20Extend 8XX 10NU 3XX 3LE 10NU 36LE 2XX 11LE 5XX 43LE 2XX 3LE 16XX 3Extend XX 21Extend 4LE
  Extend 6LE Extend 2LE 3Extend LE 5XX 192LE 64Extend 278LE 2XX 6LE 2XX 38LE 2XX 6LE 2XX 8LE XX
  LE XX LE XX LE XX 31LE 2XX 53LE XX 7LE XX LE 3XX 3LE XX 7LE 3XX 4LE 2XX 6LE 4XX 13LE 5XX 3LE XX
  7LE 3XX 7WSegSpace XX 3WSegSpace XX Extend ZWJ 2FO 8XX 2MB 10XX MB 2XX ML 2NL 5FO EX 15XX 2EX
  3XX MN 15XX EX 10XX WSegSpace 5FO XX 10FO XX LE 13XX LE 16XX 13LE 51XX 33Extend 17XX LE 4XX LE
  2XX 10LE XX LE 3XX 5LE 6XX LE XX LE XX LE XX 4LE XX 11LE 2XX 4LE 5XX 5LE 4XX LE 17XX 41LE 813XX
  52LE 1814XX 229LE 6XX 4LE 3Extend 2LE 12XX 38LE XX LE 5XX LE 2XX 56LE 7XX LE 15XX Extend 23LE
  9XX 7LE XX 7LE XX 7LE XX 7LE XX 7LE XX 7LE XX 7LE XX 7LE XX 32Extend 47XX LE 464XX WSegSpace
  4XX LE 36XX 6Extend XX 5KA 5XX 2LE 92XX 2Extend 2KA 3XX 91KA XX 4KA 5XX 43LE XX 94LE 17XX 32LE
  48XX 16KA 208XX 47KA XX 88KA 27816XX 1165LE 67XX 46LE 2XX 269LE 3XX 16LE 10NU 2LE 20XX 47LE
  4Extend XX 10Extend XX 31LE 2Extend 80LE 2Extend 22XX 198LE 2XX 2LE XX LE XX 8LE 21XX 16LE
  Extend 3LE Extend 4LE Extend 23LE 5Extend 4XX Extend 19XX 52LE 12XX 2Extend 50LE 18Extend 10XX
  10NU 6XX 18Extend 6LE 3XX LE XX 2LE Extend 10NU 28LE 8Extend 2XX 23LE 13Extend 12XX 29LE 3XX
  4Extend 47LE 14Extend 14XX LE 10NU 11XX Extend 10XX 10NU 6XX 41LE 14Extend 9XX 3LE Extend 8LE
  2Extend 2XX 10NU 33XX 3Extend 50XX Extend XX 3Extend 2XX 2Extend 5XX 2Extend XX Extend 30XX
  11LE 5Extend 2XX 3LE 2Extend 10XX 6LE 2XX 6LE 2XX 6LE 9XX 7LE XX 7LE XX 58LE 6XX 115LE 8Extend
  XX 2Extend 2XX 10NU 6XX 11172LE 12XX 23LE 4XX 49LE 8964XX 7LE 12XX 5LE 5XX HL Extend 10HL XX
  13HL XX 5HL XX HL XX 2HL XX 2HL XX 10HL 98LE 33XX 363LE 18XX 64LE 2XX 54LE 40XX 12LE 4XX
  16Extend 3XX ML 12XX 16Extend 3XX 2EX 24XX 3EX MN XX MB XX MN ML 26XX 5LE XX 135LE 2XX FO 7XX
  MB 4XX MN XX MB XX 10NU ML MN 5XX 26LE 4XX EX XX 26LE 11XX 56KA 2Extend 31LE 3XX 6LE 2XX 6LE
  2XX 6LE 2XX 3LE 28XX 3FO 4XX 12LE XX 26LE XX 19LE XX 2LE XX 15LE 2XX 14LE 34XX 123LE 69XX 53LE
  136XX Extend 130XX 29LE 3XX 49LE 15XX Extend 31XX 32LE 13XX 30LE 5XX 38LE 5Extend 5XX 30LE 2XX
  36LE 4XX 8LE XX 5LE 42XX 158LE 2XX 10NU 6XX 36LE 4XX 36LE 4XX 40LE 8XX 52LE 12XX 11LE XX 15LE
  XX 7LE XX 2LE XX 11LE XX 15LE XX 7LE XX 2LE 3XX 52LE 12XX 311LE 9XX 22LE 10XX 8LE 24XX 6LE XX
  42LE XX 9LE 69XX 6LE 2XX LE XX 44LE XX 2LE 3XX LE 2XX 23LE 10XX 23LE 9XX 31LE 65XX 19LE XX 2LE
  10XX 22LE 10XX 26LE 70XX 56LE 6XX 2LE 64XX LE 3Extend XX 2Extend 5XX 4Extend 4LE XX 3LE XX 29LE
  2XX 3Extend 4XX Extend 32XX 29LE 3XX 29LE 35XX 8LE XX 28LE 2Extend 25XX 54LE 10XX 22LE 10XX
  19LE 13XX 18LE 110XX 73LE 55XX 51LE 13XX 51LE 13XX 36LE 4Extend 8XX 10NU 6XX 10NU 28LE 3XX
  5Extend XX 23LE 250XX 42LE XX 2Extend 3XX 2LE 16XX 3LE 55XX 4Extend 29LE 10XX LE 8XX 22LE
  11Extend 31XX 18LE 4Extend 42XX 21LE 27XX 23LE 9XX 3Extend 53LE 15Extend 31XX 10NU Extend 2LE
  2Extend LE 9XX 4Extend 45LE 11Extend 2XX NU 4XX Extend 10XX NU 2XX 25LE 7XX 10NU 6XX 3Extend
  36LE 14Extend XX 10NU 4XX LE 2Extend LE 8XX 35LE Extend 2XX LE 9XX 3Extend 48LE 14Extend 4LE
  4XX 4Extend XX 2Extend 10NU LE XX LE 35XX 18LE XX 25LE 12Extend 6XX Extend 2LE Extend 62XX 7LE
  XX LE XX 4LE XX 15LE XX 10LE 7XX 47LE 12Extend 5XX 10NU 6XX 4Extend XX 8LE 2XX 2LE 2XX 22LE XX
  7LE XX 2LE XX 5LE XX 2Extend LE 7Extend 2XX 2Extend 2XX 3Extend 2XX LE 6XX Extend 5XX 5LE
  2Extend 2XX 7Extend 3XX 5Extend 11XX 10LE XX LE 2XX LE XX 38LE XX LE 9Extend XX Extend 2XX
  Extend XX 4Extend XX 5Extend LE Extend LE 13XX 2Extend 29XX 53LE 18Extend 4LE 5XX 10NU 4XX
  Extend 3LE 30XX 48LE 20Extend 2LE XX LE 8XX 10NU 166XX 47LE 7Extend 2XX 9Extend 23XX 4LE
  2Extend 34XX 48LE 17Extend 3XX LE 11XX 10NU 38XX 43LE 13Extend LE 7XX 10NU 6XX 20NU 57XX
  15Extend 4XX 10NU 198XX 44LE 15Extend 101XX 64LE 10NU 21XX 8LE 2XX LE 2XX 8LE XX 2LE XX 24LE
  6Extend XX 2Extend 2XX 4Extend LE Extend LE 2Extend 12XX 10NU 70XX 8LE 2XX 39LE 7Extend 2XX
  7Extend LE XX LE Extend 27XX LE 10Extend 40LE 7Extend LE 4Extend 8XX Extend 8XX LE 11Extend
  46LE 16Extend 3XX LE 18XX 73LE 199XX 33LE 15XX 10NU 6XX 9LE XX 37LE 8Extend XX 8Extend LE 15XX
  10NU 24XX 30LE 2XX 22Extend XX 14Extend 73XX 7LE XX 2LE XX 38LE 6Extend 3XX Extend XX 2Extend
  XX 7Extend LE Extend 8XX 10NU 6XX 6LE XX 2LE XX 32LE 5Extend XX 2Extend XX 5Extend LE 7XX 10NU
  310XX 19LE 4Extend 9XX 2Extend LE Extend 13LE XX 34LE 7Extend 3XX 5Extend 13XX 10NU Extend 85XX
  LE 79XX 922LE 102XX 111LE 17XX 196LE 2636XX 97LE 15XX 1072LE 16FO Extend 6LE 15Extend 10XX
  3995LE 5XX 583LE 6841XX 30LE 18Extend 10NU 1734XX 569LE 7XX 31LE XX 10NU 6XX 79LE XX 10NU 6XX
  30LE 2XX 5Extend 11XX 48LE 7Extend 9XX 4LE 12XX 10NU 9XX 21LE 5XX 19LE 432XX 45LE 3XX 10NU
  198XX 64LE 128XX 75LE 4XX Extend LE 55Extend 7XX 4Extend 13LE 64XX 2LE XX LE Extend 11XX
  2Extend 16382XX 4KA XX 7KA XX 2KA XX KA 287XX 3KA 50XX KA 14XX 4KA 2712XX 107LE 5XX 13LE 3XX
  9LE 7XX 10LE 3XX 2Extend XX 4FO 4172XX 10NU 518XX 46Extend 2XX 23Extend 542XX 5Extend 3XX
  6Extend 8FO 8Extend 2XX 7Extend 30XX 4Extend 148XX 3Extend 443XX 85LE XX 71LE XX 2LE 2XX LE 2XX
  2LE 2XX 4LE XX 12LE XX LE XX 7LE XX 65LE XX 4LE 2XX 8LE XX 7LE XX 28LE XX 4LE XX 5LE XX LE 3XX
  7LE XX 340LE 2XX 25LE XX 25LE XX 31LE XX 25LE XX 31LE XX 25LE XX 31LE XX 25LE XX 31LE XX 25LE
  XX 8LE 2XX 50NU 512XX 55Extend 4XX 50Extend 8XX Extend 14XX Extend 22XX 5Extend XX 15Extend
  1104XX 31LE 6XX 6LE 213XX 7Extend XX 17Extend 2XX 7Extend XX 2Extend XX 5Extend 5XX 62LE 33XX
  Extend 112XX 45LE 3XX 7Extend 7LE 2XX 10NU 4XX LE 321XX 30LE Extend 17XX 44LE 4Extend 10NU
  470XX 28LE 4Extend 10NU 214XX 30LE 2Extend LE 10NU 485XX 7LE XX 4LE XX 2LE XX 15LE XX 197LE
  11XX 7Extend 41XX 68LE 7Extend LE 4XX 10NU 1190XX 4LE XX 27LE XX 2LE XX LE 2XX LE XX 10LE XX
  4LE XX LE XX LE 6XX LE 4XX LE XX LE XX LE XX 3LE XX 2LE XX LE 2XX LE XX LE XX LE XX LE XX LE XX
  2LE XX LE 2XX 4LE XX 7LE XX 4LE XX 4LE XX LE XX 10LE XX 17LE 5XX 3LE XX 5LE XX 17LE 628XX 26LE
  6XX 26LE 6XX 26LE 92XX 26RI 507XX 5Extend 2032XX 10NU 787463XX FO 30XX 96Extend 128XX 240Extend
  196112XX"
  values :=
  [
    (["aletter", "le"], ["LE"]),
    (["cr"], ["CR"]),
    (["doublequote", "dq"], ["DQ"]),
    (["extend"], ["Extend"]),
    (["ex", "extendnumlet"], ["EX"]),
    (["fo", "format"], ["FO"]),
    (["hebrewletter", "hl"], ["HL"]),
    (["ka", "katakana"], ["KA"]),
    (["lf"], ["LF"]),
    (["midletter", "ml"], ["ML"]),
    (["midnum", "mn"], ["MN"]),
    (["mb", "midnumlet"], ["MB"]),
    (["newline", "nl"], ["NL"]),
    (["nu", "numeric"], ["NU"]),
    (["regionalindicator", "ri"], ["RI"]),
    (["singlequote", "sq"], ["SQ"]),
    (["wsegspace"], ["WSegSpace"]),
    (["zwj"], ["ZWJ"])
  ]

/-- The classes for boundaries between sentences. -/
def sentence : Partition where
  table :=
  "9XX SP LF 2SP CR 18XX SP ST CL 4XX 3CL 2XX 2SC AT XX 10NU 2SC 3XX ST XX 26UP CL XX CL 3XX 26LO
  CL XX CL 7XX SE 26XX SP 9XX LO CL XX FO 7XX LO 4XX LO CL 4XX 23UP XX 7UP 24LO XX 8LO UP LO UP
  LO UP LO UP LO UP LO UP LO UP LO UP LO UP LO UP LO UP LO UP LO UP LO UP LO UP LO UP LO UP LO UP
  LO UP LO UP LO UP LO UP LO UP LO UP LO UP LO UP LO UP LO UP 2LO UP LO UP LO UP LO UP LO UP LO
  UP LO UP LO UP 2LO UP LO UP LO UP LO UP LO UP LO UP LO UP LO UP LO UP LO UP LO UP LO UP LO UP
  LO UP LO UP LO UP LO UP LO UP LO UP LO UP LO UP LO UP LO UP LO 2UP LO UP LO UP 3LO 2UP LO UP LO
  2UP LO 3UP 2LO 4UP LO 2UP LO 3UP 3LO 2UP LO 2UP LO UP LO UP LO 2UP LO UP 2LO UP LO 2UP LO 3UP
  LO UP LO 2UP 2LO LE UP 3LO 4LE 2UP LO 2UP LO 2UP LO UP LO UP LO UP LO UP LO UP LO UP LO UP LO
  UP 2LO UP LO UP LO UP LO UP LO UP LO UP LO UP LO UP LO UP 2LO 2UP LO UP LO 3UP LO UP LO UP LO
  UP LO UP LO UP LO UP LO UP LO UP LO UP LO UP LO UP LO UP LO UP LO UP LO UP LO UP LO UP LO UP LO
  UP LO UP LO UP LO UP LO UP LO UP LO UP LO UP LO UP LO UP LO UP 7LO 2UP LO 2UP 2LO UP LO 4UP LO
  UP LO UP LO UP LO UP 69LO LE 36LO 7LE 2LO 4XX 12LE 14XX 5LO 7XX LE XX LE 17XX 112EX UP LO UP LO
  LE XX UP LO 2XX 4LO SC UP 6XX UP XX 3UP XX UP XX 2UP LO 17UP XX 9UP 35LO UP 2LO 3UP 3LO UP LO
  UP LO UP LO UP LO UP LO UP LO UP LO UP LO UP LO UP LO UP LO UP 5LO UP LO XX UP LO 2UP 2LO 51UP
  48LO UP LO UP LO UP LO UP LO UP LO UP LO UP LO UP LO UP LO UP LO UP LO UP LO UP LO UP LO UP LO
  UP LO UP LO XX 7EX UP LO UP LO UP LO UP LO UP LO UP LO UP LO UP LO UP LO UP LO UP LO UP LO UP
  LO UP LO UP LO UP LO UP LO UP LO UP LO UP LO UP LO UP LO UP LO UP LO UP LO UP LO UP LO 2UP LO
  UP LO UP LO UP LO UP LO UP LO UP 2LO UP LO UP LO UP LO UP LO UP LO UP LO UP LO UP LO UP LO UP
  LO UP LO UP LO UP LO UP LO UP LO UP LO UP LO UP LO UP LO UP LO UP LO UP LO UP LO UP LO UP LO UP
  LO UP LO UP LO UP LO UP LO UP LO UP LO UP LO UP LO UP LO UP LO UP LO UP LO UP LO UP LO UP LO UP
  LO UP LO UP LO UP LO UP LO UP LO UP LO XX 38UP 2XX LE 3XX SC 2XX 41LO ST 7XX 45EX XX EX XX 2EX
  XX 2EX XX EX 8XX 27LE 4XX 5LE 12XX 6NU 6XX 2SC 2XX 11EX XX FO 3ST 43LE 21EX 10NU XX 2NU XX 2LE
  EX 99LE ST LE 7EX NU XX 6EX 2LE 2EX XX 4EX 2LE 10NU 3LE 2XX LE 3ST 12XX FO LE EX 30LE 27EX 2XX
  89LE 11EX LE 14XX 10NU 33LE 9EX 2LE 2XX SC ST LE 2XX EX 2XX 22LE 4EX LE 9EX LE 3EX LE 5EX 9XX
  ST XX ST 3XX 2ST XX 25LE 3EX 4XX 11LE 5XX 24LE XX 6LE XX 2NU 5XX 9EX 42LE 24EX NU 33EX 54LE 3EX
  LE 18EX LE 7EX 10LE 2EX 2ST 10NU XX 16LE 3EX XX 8LE 2XX 2LE 2XX 22LE XX 7LE XX LE 3XX 4LE 2XX
  EX LE 7EX 2XX 2EX 2XX 3EX LE 8XX EX 4XX 2LE XX 3LE 2EX 2XX 10NU 2LE 10XX LE XX EX 2XX 3EX XX
  6LE 4XX 2LE 2XX 22LE XX 7LE XX 2LE XX 2LE XX 2LE 2XX EX XX 5EX 4XX 2EX 2XX 3EX 3XX EX 7XX 4LE
  XX LE 7XX 10NU 2EX 3LE EX 11XX 3EX XX 9LE XX 3LE XX 22LE XX 7LE XX 2LE XX 5LE 2XX EX LE 8EX XX
  3EX XX 3EX 2XX LE 15XX 2LE 2EX 2XX 10NU 9XX LE 6EX XX 3EX XX 8LE 2XX 2LE 2XX 22LE XX 7LE XX 2LE
  XX 5LE 2XX EX LE 7EX 2XX 2EX 2XX 3EX 7XX 3EX 4XX 2LE XX 3LE 2EX 2XX 10NU XX LE 16XX EX LE XX
  6LE 3XX 3LE XX 4LE 3XX 2LE XX LE XX 2LE 3XX 2LE 3XX 3LE 3XX 12LE 4XX 5EX 3XX 3EX XX 4EX 2XX LE
  6XX EX 14XX 10NU 16XX 5EX 8LE XX 3LE XX 23LE XX 16LE 2XX EX LE 7EX XX 3EX XX 4EX 7XX 2EX XX 3LE
  2XX LE 2XX 2LE 2EX 2XX 10NU 16XX LE 3EX XX 8LE XX 3LE XX 23LE XX 10LE XX 5LE 2XX EX LE 7EX XX
  3EX XX 4EX 7XX 2EX 6XX 2LE XX 2LE 2EX 2XX 10NU XX 2LE EX 12XX 4EX 9LE XX 3LE XX 41LE 2EX LE 7EX
  XX 3EX XX 4EX LE 5XX 3LE EX 7XX 3LE 2EX 2XX 10NU 10XX 6LE XX 3EX XX 18LE 3XX 24LE XX 9LE XX LE
  2XX 7LE 3XX EX 4XX 6EX XX EX XX 8EX 6XX 10NU 2XX 2EX 13XX 48LE EX 2LE 7EX 5XX 7LE 8EX XX 10NU
  39XX 2LE XX LE XX 5LE XX 24LE XX LE XX 10LE EX 2LE 9EX LE 2XX 5LE XX LE XX 7EX XX 10NU 2XX 4LE
  32XX LE 23XX 2EX 6XX 10NU 11XX EX XX EX XX EX 4CL 2EX 8LE XX 36LE 4XX 20EX XX 2EX 5LE 11EX XX
  36EX 9XX EX 57XX 43LE 20EX LE 10NU 2ST 4XX 6LE 4EX 4LE 3EX LE 3EX 2LE 7EX 3LE 4EX 13LE 12EX LE
  EX 10NU 4EX 2XX 38UP XX UP 5XX UP 2XX 43LE XX LO 332LE XX 4LE 2XX 7LE XX LE XX 4LE 2XX 41LE XX
  4LE 2XX 33LE XX 4LE 2XX 7LE XX LE XX 4LE 2XX 15LE XX 57LE XX 4LE 2XX 67LE 2XX 3EX 2XX ST 4XX
  2ST 23XX 16LE 16XX 86UP 2XX 6LO 3XX 620LE XX ST 17LE SP 26LE 2CL 3XX 75LE 3XX 11LE 7XX 18LE 4EX
  9XX 19LE 3EX 2ST 9XX 18LE 2EX 12XX 13LE XX 3LE XX 2EX 12XX 52LE 32EX 2ST XX LE 4XX LE EX 2XX
  10NU 24XX SC ST 4XX SC ST XX 3EX FO EX 10NU 6XX 89LE 7XX 5LE 2EX 34LE EX LE 5XX 70LE 10XX 31LE
  XX 12EX 4XX 12EX 8XX 2ST 10NU 30LE 2XX 5LE 11XX 44LE 4XX 26LE 6XX 11NU 37XX 23LE 5EX 4XX 53LE
  10EX XX 29EX 2XX EX 10NU 6XX 10NU 13XX LE 4ST 4XX 31EX 49XX 5EX 47LE 17EX 8LE XX 2ST 10NU 2ST
  2XX 2ST 11XX 9EX 9XX 3ST 3EX 30LE 13EX 2LE 10NU 44LE 14EX 12XX 36LE 20EX 3XX 2ST 3XX 10NU 3XX
  3LE 10NU 36LE 2ST 9LO UP LO 5XX 43LE 2XX 3LE 16XX 3EX XX 21EX 4LE EX 6LE EX 2LE 3EX LE 5XX
  192LO 64EX UP LO UP LO UP LO UP LO UP LO UP LO UP LO UP LO UP LO UP LO UP LO UP LO UP LO UP LO
  UP LO UP LO UP LO UP LO UP LO UP LO UP LO UP LO UP LO UP LO UP LO UP LO UP LO UP LO UP LO UP LO
  UP LO UP LO UP LO UP LO UP LO UP LO UP LO UP LO UP LO UP LO UP LO UP LO UP LO UP LO UP LO UP LO
  UP LO UP LO UP LO UP LO UP LO UP LO UP LO UP LO UP LO UP LO UP LO UP LO UP LO UP LO UP LO UP LO
  UP LO UP LO UP LO UP LO UP LO UP LO UP LO UP LO UP LO UP LO UP LO UP LO UP 9LO UP LO UP LO UP
  LO UP LO UP LO UP LO UP LO UP LO UP LO UP LO UP LO UP LO UP LO UP LO UP LO UP LO UP LO UP LO UP
  LO UP LO UP LO UP LO UP LO UP LO UP LO UP LO UP LO UP LO UP LO UP LO UP LO UP LO UP LO UP LO UP
  LO UP LO UP LO UP LO UP LO UP LO UP LO UP LO UP LO UP LO UP LO UP LO UP LO UP LO UP 9LO 8UP 6LO
  2XX 6UP 2XX 8LO 8UP 8LO 8UP 6LO 2XX 6UP 2XX 8LO XX UP XX UP XX UP XX UP 8LO 8UP 14LO 2XX 8LO
  8UP 8LO 8UP 8LO 8UP 5LO XX 2LO 5UP XX LO 3XX 3LO XX 2LO 5UP 3XX 4LO 2XX 2LO 4UP 4XX 8LO 5UP 5XX
  3LO XX 2LO 5UP 3XX 11SP FO 2EX 2FO 3XX 2SC 3XX 8CL 4XX AT 3XX 2SE 5FO SP 9XX 2CL XX 2ST 7XX 2CL
  3ST 21XX SP 5FO XX 10FO XX LO 11XX 2CL LO 13XX 2CL XX 13LO 51XX 33EX 17XX UP 4XX UP 2XX LO 3UP
  2LO 3UP LO XX UP 3XX 5UP 6XX UP XX UP XX UP XX 4UP XX LO 4UP LO 4LE LO 2XX 2LO 2UP 5XX UP 4LO
  4XX LO 17XX 16UP 16LO 3LE UP LO 4LE 383XX 4CL 29XX 2CL 395XX 26UP 26LO 625XX 6CL 7XX 14CL 79XX
  2CL 31XX 10CL 403XX 22CL 63XX 4CL 32XX 2CL 514XX 48UP 48LO UP LO 3UP 2LO UP LO UP LO UP LO 4UP
  LO UP 2LO UP 8LO 3UP LO UP LO UP LO UP LO UP LO UP LO UP LO UP LO UP LO UP LO UP LO UP LO UP LO
  UP LO UP LO UP LO UP LO UP LO UP LO UP LO UP LO UP LO UP LO UP LO UP LO UP LO UP LO UP LO UP LO
  UP LO UP LO UP LO UP LO UP LO UP LO UP LO UP LO UP LO UP LO UP LO UP LO UP LO UP LO UP LO UP LO
  UP LO UP LO UP LO UP LO UP 2LO 6XX UP LO UP LO 3EX UP LO 5XX 3ST 4XX 38LO XX LO 5XX LO 2XX 56LE
  7XX LE 15XX EX 23LE 9XX 7LE XX 7LE XX 7LE XX 7LE XX 7LE XX 7LE XX 7LE XX 7LE XX 32EX 14CL 14XX
  2CL 2XX 10CL 4XX ST LE 12XX ST 5XX CL 16XX 2ST 8CL 419XX SP SC ST 2XX 3LE 10CL 2XX 8CL XX 3CL
  XX 9LE 6EX XX 5LE 2XX 5LE 4XX 86LE 2XX 2EX 2XX 3LE XX 90LE XX 4LE 5XX 43LE XX 94LE 17XX 32LE
  48XX 16LE 512XX 6592LE 64XX 22157LE 67XX 46LE XX ST 269LE XX 2ST 16LE 10NU 2LE 20XX UP LO UP LO
  UP LO UP LO UP LO UP LO UP LO UP LO UP LO UP LO UP LO UP LO UP LO UP LO UP LO UP LO UP LO UP LO
  UP LO UP LO UP LO UP LO UP LO LE 4EX XX 10EX XX LE UP LO UP LO UP LO UP LO UP LO UP LO UP LO UP
  LO UP LO UP LO UP LO UP LO UP LO UP 3LO 2EX 80LE 2EX XX ST 3XX ST 31XX 9LE 2XX UP LO UP LO UP
  LO UP LO UP LO UP LO UP 3LO UP LO UP LO UP LO UP LO UP LO UP LO UP LO UP LO UP LO UP LO UP LO
  UP LO UP LO UP LO UP LO UP LO UP LO UP LO UP LO UP LO UP LO UP LO UP LO UP LO UP LO UP LO UP LO
  UP LO UP LO UP LO UP 10LO UP LO UP LO 2UP LO UP LO UP LO UP LO UP LO LE 2XX UP LO UP LO LE UP
  LO UP 3LO UP LO UP LO UP LO UP LO UP LO UP LO UP LO UP LO UP LO UP LO 5UP LO 5UP LO UP LO UP LO
  UP LO UP LO UP LO UP LO UP LO 4UP LO UP LO 2UP LO 2XX UP LO XX LO XX LO UP LO UP LO UP LO UP
  21XX 3LO UP LO LE 3LO 7LE EX 3LE EX 4LE EX 23LE 5EX 4XX EX 19XX 52LE 2XX 2ST 8XX 2EX 50LE 18EX
  8XX 2ST 10NU 6XX 18EX 6LE 3XX LE XX 2LE EX 10NU 28LE 8EX XX ST 23LE 13EX 12XX 29LE 3XX 4EX 47LE
  14EX 7XX 2ST 5XX LE 10NU 6XX 5LE EX 10LE 10NU 5LE XX 41LE 14EX 9XX 3LE EX 8LE 2EX 2XX 10NU 3XX
  3ST 23LE 3XX LE 3EX 50LE EX LE 3EX 2LE 2EX 5LE 2EX LE EX LE 24XX 3LE 2XX 11LE 5EX 2ST 3LE 2EX
  10XX 6LE 2XX 6LE 2XX 6LE 9XX 7LE XX 7LE XX 43LO XX 14LO 6XX 80LO 35LE 8EX ST 2EX 2XX 10NU 6XX
  11172LE 12XX 23LE 4XX 49LE 8452XX 366LE 2XX 106LE 38XX 7LO 12XX 5LO 5XX LE EX 10LE XX 13LE XX
  5LE XX LE XX 2LE XX 2LE XX 108LE 33XX 363LE 2CL 16XX 64LE 2XX 54LE 40XX 12LE 4XX 16EX 2SC ST
  2SC 2ST 2CL 7XX 16EX XX 2SC 2XX 16CL 2XX 2CL 7XX 2SC AT XX 2SC 2ST SC 6CL 4XX SC 12XX 5LE XX
  135LE 2XX FO XX ST 6XX 2CL 2XX 2SC AT XX 10NU 2SC 3XX ST XX 26UP CL XX CL 3XX 26LO CL XX CL XX
  2CL ST 2CL SC XX 56LE 2EX 31LE 3XX 6LE 2XX 6LE 2XX 6LE 2XX 3LE 28XX 3FO 4XX 12LE XX 26LE XX
  19LE XX 2LE XX 15LE 2XX 14LE 34XX 123LE 69XX 53LE 136XX EX 130XX 29LE 3XX 49LE 15XX EX 31XX
  32LE 13XX 30LE 5XX 38LE 5EX 5XX 30LE 2XX 36LE 4XX 8LE XX 5LE 42XX 40UP 40LO 78LE 2XX 10NU 6XX
  36UP 4XX 36LO 4XX 40LE 8XX 52LE 12XX 11UP XX 15UP XX 7UP XX 2UP XX 11LO XX 15LO XX 7LO XX 2LO
  3XX 52LE 12XX 311LE 9XX 22LE 10XX 8LE 24XX LO 2LE 3LO XX 42LO XX 9LO 69XX 6LE 2XX LE XX 44LE XX
  2LE 3XX LE 2XX 23LE 10XX 23LE 9XX 31LE 65XX 19LE XX 2LE 10XX 22LE 10XX 26LE 70XX 56LE 6XX 2LE
  64XX LE 3EX XX 2EX 5XX 4EX 4LE XX 3LE XX 29LE 2XX 3EX 4XX EX 22XX 2ST 8XX 29LE 3XX 29LE 35XX
  8LE XX 28LE 2EX 25XX 54LE 10XX 22LE 10XX 19LE 13XX 18LE 110XX 73LE 55XX 51UP 13XX 51LO 13XX
  36LE 4EX 8XX 10NU 6XX 10NU 6LE 22UP 3XX 5EX XX LE 22LO 250XX 42LE XX 2EX 3XX 2LE 16XX 3LE 55XX
  4EX 29LE 10XX LE 8XX 22LE 11EX 4XX 5ST 22XX 18LE 4EX 4ST 38XX 21LE 27XX 23LE 9XX 3EX 53LE 15EX
  2ST 29XX 10NU EX 2LE 2EX LE 9XX 4EX 45LE 11EX 2XX NU 4ST EX 10XX NU 2XX 25LE 7XX 10NU 6XX 3EX
  36LE 14EX XX 10NU XX 3ST LE 2EX LE 8XX 35LE EX 2XX LE 9XX 3EX 48LE 14EX 4LE 2ST 2XX 4EX ST 2EX
  10NU LE XX LE XX 2ST 32XX 18LE XX 25LE 12EX 2ST XX 2ST XX EX 2LE EX 62XX 7LE XX LE XX 4LE XX
  15LE XX 10LE ST 6XX 47LE 12EX 5XX 10NU 6XX 4EX XX 8LE 2XX 2LE 2XX 22LE XX 7LE XX 2LE XX 5LE XX
  2EX LE 7EX 2XX 2EX 2XX 3EX 2XX LE 6XX EX 5XX 5LE 2EX 2XX 7EX 3XX 5EX 11XX 10LE XX LE 2XX LE XX
  38LE XX LE 9EX XX EX 2XX EX XX 4EX XX 5EX LE EX LE 2ST 11XX 2EX 29XX 53LE 18EX 4LE 2ST 3XX 10NU
  4XX EX 3LE 30XX 48LE 20EX 2LE XX LE 8XX 10NU 166XX 47LE 7EX 2XX 9EX XX 2ST 5XX 15ST 4LE 2EX
  34XX 48LE 17EX 2ST XX LE 11XX 10NU 38XX 43LE 13EX LE 7XX 10NU 6XX 20NU 28XX 27LE 2XX 15EX 4XX
  10NU 2XX 3ST XX 7LE 185XX 44LE 15EX 101XX 32UP 32LO 10NU 21XX 8LE 2XX LE 2XX 8LE XX 2LE XX 24LE
  6EX XX 2EX 2XX 4EX LE EX LE 2EX ST XX ST 9XX 10NU 70XX 8LE 2XX 39LE 7EX 2XX 7EX LE XX LE EX
  27XX LE 10EX 40LE 7EX LE 4EX 3XX 2ST 3XX EX 8XX LE 11EX 46LE 16EX XX 2ST LE 18XX 73LE 199XX
  33LE 15XX 10NU 6XX 9LE XX 37LE 8EX XX 8EX LE 2ST 13XX 10NU 24XX 30LE 2XX 22EX XX 14EX 73XX 7LE
  XX 2LE XX 38LE 6EX 3XX EX XX 2EX XX 7EX LE EX 8XX 10NU 6XX 6LE XX 2LE XX 32LE 5EX XX 2EX XX 5EX
  LE 7XX 10NU 310XX 19LE 4EX 2ST 7XX 2EX LE EX 13LE XX 34LE 7EX 3XX 5EX 2ST 11XX 10NU EX 85XX LE
  79XX 922LE 102XX 111LE 17XX 196LE 2636XX 97LE 15XX 1072LE 16FO EX 6LE 15EX 10XX 3995LE 5XX
  583LE 6841XX 30LE 18EX 10NU 1734XX 569LE 7XX 31LE XX 10NU 4XX 2ST 79LE XX 10NU 6XX 30LE 2XX 5EX
  ST 10XX 48LE 7EX 2ST 7XX 4LE ST 11XX 10NU 9XX 21LE 5XX 19LE 432XX 45LE XX 2ST 10NU 198XX 32UP
  32LO 24XX ST 103XX 75LE 4XX EX LE 55EX 7XX 4EX 13LE 64XX 2LE XX LE EX 11XX 2EX 14XX 6136LE 8XX
  1238LE 41XX 10LE 8935XX 4LE XX 7LE XX 2LE XX 291LE 15XX LE 29XX 3LE 2XX LE 14XX 4LE 8XX 396LE
  2308XX 107LE 5XX 13LE 3XX 9LE 7XX 10LE 3XX 2EX ST 4FO 4172XX 10NU 518XX 46EX 2XX 23EX 542XX 5EX
  3XX 6EX 8FO 8EX 2XX 7EX 30XX 4EX 148XX 3EX 443XX 26UP 26LO 26UP 7LO XX 18LO 26UP 26LO UP XX 2UP
  2XX UP 2XX 2UP 2XX 4UP XX 8UP 4LO XX LO XX 7LO XX 11LO 26UP 26LO 2UP XX 4UP 2XX 8UP XX 7UP XX
  26LO 2UP XX 4UP XX 5UP XX UP 3XX 7UP XX 26LO 26UP 26LO 26UP 26LO 26UP 26LO 26UP 26LO 26UP 26LO
  26UP 28LO 2XX 25UP XX 25LO XX 6LO 25UP XX 25LO XX 6LO 25UP XX 25LO XX 6LO 25UP XX 25LO XX 6LO
  25UP XX 25LO XX 6LO UP LO 2XX 50NU 512XX 55EX 4XX 50EX 8XX EX 14XX EX 3XX ST 18XX 5EX XX 15EX
  1104XX 10LO LE 20LO 6XX 6LO 213XX 7EX XX 17EX 2XX 7EX XX 2EX XX 5EX 5XX 62LO 33XX EX 112XX 45LE
  3XX 7EX 7LE 2XX 10NU 4XX LE 321XX 30LE EX 17XX 44LE 4EX 10NU 470XX 28LE 4EX 10NU 214XX 30LE 2EX
  LE 10NU 485XX 7LE XX 4LE XX 2LE XX 15LE XX 197LE 11XX 7EX 41XX 34UP 34LO 7EX LE 4XX 10NU 1190XX
  4LE XX 27LE XX 2LE XX LE 2XX LE XX 10LE XX 4LE XX LE XX LE 6XX LE 4XX LE XX LE XX LE XX 3LE XX
  2LE XX LE 2XX LE XX LE XX LE XX LE XX LE XX 2LE XX LE 2XX 4LE XX 7LE XX 4LE XX 4LE XX LE XX
  10LE XX 17LE 5XX 3LE XX 5LE XX 17LE 628XX 26UP 6XX 26UP 6XX 26UP 1260XX 3CL 1399XX 10NU 1030XX
  42720LE 32XX 4154LE 6XX 222LE 2XX 5762LE 14XX 7473LE 15XX 622LE 2466XX 542LE 1506XX 4939LE 5XX
  4192LE 711761XX FO 30XX 96EX 128XX 240EX 196112XX"
  values :=
  [
    (["at", "aterm"], ["AT"]),
    (["cr"], ["CR"]),
    (["cl", "close"], ["CL"]),
    (["ex", "extend"], ["EX"]),
    (["fo", "format"], ["FO"]),
    (["lf"], ["LF"]),
    (["lo", "lower"], ["LO"]),
    (["nu", "numeric"], ["NU"]),
    (["le", "oletter"], ["LE"]),
    (["sc", "scontinue"], ["SC"]),
    (["st", "sterm"], ["ST"]),
    (["se", "sep"], ["SE"]),
    (["sp"], ["SP"]),
    (["up", "upper"], ["UP"])
  ]

end Rollup.Unicode.Boundary
