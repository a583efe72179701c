/-!
What every code point does at the borders of user-perceived characters, of words and of sentences,
as stretches written like those of the general categories. The code points labelled XX have no part
in a border and cannot be asked for.
-/

namespace Umbra.Unicode

def graphemeBreakText : String :=
  "0CN aLF 1CN 2CR 1CN iXX 2nCN xXX dCN 1XX giEX 34XX 7nEX 7XX 7bEX 19XX 1EX 1XX 1EX 2XX 1EX
  2XX 1EX 1XX 1kPP 6XX aEX bXX 1CN 1XX 1aEX lXX gEX 1XX 2tEX 7PP 1XX 1EX 6XX 2EX 2XX 1EX 4XX
  xPP 1XX 1EX 1XX uEX rXX 2jEX bXX 1mEX 9XX 9EX 1XX oEX 4XX 1EX 9XX 1EX 3XX 1EX 5XX 17EX 3XX
  1gPP 2XX 5EX 9XX 16EX oPP 1EX wSM 1XX 1iEX 1SM 1EX 1XX 1SM 3EX 8SM 4EX 1SM 2XX 1EX 7XX aEX
  2XX tEX 1SM 2XX 1kEX 1XX 1EX 1SM 2EX 4XX 2SM 2XX 2SM 2EX 1XX 9EX 1XX aEX 2XX qEX 1XX 2EX
  2SM 1XX 1kEX 1XX 1SM 3EX 2XX 4EX 2XX 2EX 3XX 3EX 1XX uEX 2XX 3EX 1XX bEX 2SM 1XX 1kEX 1XX
  1SM 3EX 5XX 1EX 2SM 1XX 1SM 2EX 1XX kEX 2XX mEX 6XX 1EX 1SM 2XX 1kEX 1XX 1EX 2SM 1EX 4XX
  2SM 2XX 2SM 2EX 1XX 7EX 3XX aEX 2XX uEX 1XX 1nEX 1SM 1EX 1SM 2XX 3SM 3XX 1SM 3EX 1XX 9EX
  1XX 14EX 1SM 3EX 1XX 1jEX 1XX 1EX 3SM 4XX 1EX 3XX 1EX 4XX 7EX 2XX bEX 2XX tEX 1SM 2XX 1kEX
  1XX 1SM 1EX 2SM 1EX 1SM 2XX 1EX 3XX 1EX 4XX 7EX 2XX bEX 2XX fSM 1XX cEX 2SM 2XX 1jEX 2XX
  1EX 1SM 2EX 4XX 1SM 3XX 1SM 3EX 1PP 1XX 8EX 1XX aEX 2XX tEX 1SM 2XX 1yEX 1XX 4EX 1SM 2EX
  3XX 1EX 1XX 1SM 7EX 1XX iSM 2XX 1pEX 1XX 1SM 1EX 7XX cEX 8XX 2qEX 1XX 1SM 1EX 9XX bEX 7XX
  21EX 2XX rEX 1XX 1EX 1XX 1EX 1XX 4SM 2XX 1dEX eSM 1EX 5XX 1EX 2XX 5EX bXX 1EX 10XX 9EX 1XX
  2uEX 4SM 1EX 6XX 1EX 2SM 2EX 2XX nSM 2EX 2XX 4EX 3XX gEX 4XX dEX 1XX 1SM 1EX 2XX 6EX 1XX
  fEX 1XX 2qL 2oV 20T 2gXX 9pEX 3XX qaEX 4XX sEX 3XX tEX 2XX uEX 2XX 1sEX 2SM 1EX 7SM 8EX
  1SM 2EX bXX 9EX 1XX 19EX 3CN 1EX 1XX 39EX 2XX yEX 1XX 3aEX 3SM 4EX 2SM 3XX 4SM 2EX 1SM 6EX
  3XX 63EX 2SM 2EX 1XX 1lSM 1EX 1SM 1EX 7XX 1EX 1XX 1EX 1XX 2EX 8SM 6EX aXX 2EX 1XX 1cEX vXX
  1dEX 4SM 1XX 1bEX aSM 4EX 3XX 12EX 9XX cEX 2SM 1XX uSM 1EX 4SM 2EX 6XX 1kEX 1SM 1EX 2SM
  3EX 1SM 1EX 5XX 1cSM 8EX 8SM 2EX 2XX 48EX 3XX 1EX dSM 1EX 7XX 4EX 1XX 6EX 1XX 2SM 1EX 2XX
  5iEX 1sXX ejCN 1EX 1ZWJ 1CN 2XX oCN 7XX 1dCN gXX 2oEX xXX 2daEX 3XX 3xEX 1XX 2oEX wXX feEX
  6XX 2xEX 2XX n9wEX 4XX 1EX aXX wEX 2XX 28EX 2XX 7kEX 1XX 3EX 1XX 4EX 1XX nSM 2EX 2SM 1XX
  4EX 1XX 2bSM 2XX 1eSM gEX 2XX qEX iXX dEX 1XX 12EX 8XX pEX bSM 1EX 1XX cL tXX 3EX 3SM 1XX
  1bEX 1SM 2EX 4SM 2EX 2SM 2EX 1XX 10EX 1XX 1vEX 6SM 2EX 2SM 2EX 2XX cEX 1XX 8EX 1SM 1XX
  1aEX 1XX 1fEX 1XX 1EX 3XX 2EX 2XX 5EX 2XX 1EX 1XX 15SM 1EX 2SM 2XX 5SM 1EX 1XX 6kSM 2EX
  1SM 2EX 1SM 2XX 1SM 1EX 1XX iLV 1LVT rLV 1LVT rLV 1LVT rLV 1LVT rLV 1LVT rLV 1LVT rLV 1LVT
  rLV 1LVT rLV 1LVT rLV 1LVT rLV 1LVT rLV 1LVT rLV 1LVT rLV 1LVT rLV 1LVT rLV 1LVT rLV 1LVT
  rLV 1LVT rLV 1LVT rLV 1LVT rLV 1LVT rLV 1LVT rLV 1LVT rLV 1LVT rLV 1LVT rLV 1LVT rLV 1LVT
  rLV 1LVT rLV 1LVT rLV 1LVT rLV 1LVT rLV 1LVT rLV 1LVT rLV 1LVT rLV 1LVT rLV 1LVT rLV 1LVT
  rLV 1LVT rLV 1LVT rLV 1LVT rLV 1LVT rLV 1LVT rLV 1LVT rLV 1LVT rLV 1LVT rLV 1LVT rLV 1LVT
  rLV 1LVT rLV 1LVT rLV 1LVT rLV 1LVT rLV 1LVT rLV 1LVT rLV 1LVT rLV 1LVT rLV 1LVT rLV 1LVT
  rLV 1LVT rLV 1LVT rLV 1LVT rLV 1LVT rLV 1LVT rLV 1LVT rLV 1LVT rLV 1LVT rLV 1LVT rLV 1LVT
  rLV 1LVT rLV 1LVT rLV 1LVT rLV 1LVT rLV 1LVT rLV 1LVT rLV 1LVT rLV 1LVT rLV 1LVT rLV 1LVT
  rLV 1LVT rLV 1LVT rLV 1LVT rLV 1LVT rLV 1LVT rLV 1LVT rLV 1LVT rLV 1LVT rLV 1LVT rLV 1LVT
  rLV 1LVT rLV 1LVT rLV 1LVT rLV 1LVT rLV 1LVT rLV 1LVT rLV 1LVT rLV 1LVT rLV 1LVT rLV 1LVT
  rLV 1LVT rLV 1LVT rLV 1LVT rLV 1LVT rLV 1LVT rLV 1LVT rLV 1LVT rLV 1LVT rLV 1LVT rLV 1LVT
  rLV 1LVT rLV 1LVT rLV 1LVT rLV 1LVT rLV 1LVT rLV 1LVT rLV 1LVT rLV 1LVT rLV 1LVT rLV 1LVT
  rLV 1LVT rLV 1LVT rLV 1LVT rLV 1LVT rLV 1LVT rLV 1LVT rLV 1LVT rLV 1LVT rLV 1LVT rLV 1LVT
  rLV 1LVT rLV 1LVT rLV 1LVT rLV 1LVT rLV 1LVT rLV 1LVT rLV 1LVT rLV 1LVT rLV 1LVT rLV 1LVT
  rLV 1LVT rLV 1LVT rLV 1LVT rLV 1LVT rLV 1LVT rLV 1LVT rLV 1LVT rLV 1LVT rLV 1LVT rLV 1LVT
  rLV 1LVT rLV 1LVT rLV 1LVT rLV 1LVT rLV 1LVT rLV 1LVT rLV 1LVT rLV 1LVT rLV 1LVT rLV 1LVT
  rLV 1LVT rLV 1LVT rLV 1LVT rLV 1LVT rLV 1LVT rLV 1LVT rLV 1LVT rLV 1LVT rLV 1LVT rLV 1LVT
  rLV 1LVT rLV 1LVT rLV 1LVT rLV 1LVT rLV 1LVT rLV 1LVT rLV 1LVT rLV 1LVT rLV 1LVT rLV 1LVT
  rLV 1LVT rLV 1LVT rLV 1LVT rLV 1LVT rLV 1LVT rLV 1LVT rLV 1LVT rLV 1LVT rLV 1LVT rLV 1LVT
  rLV 1LVT rLV 1LVT rLV 1LVT rLV 1LVT rLV 1LVT rLV 1LVT rLV 1LVT rLV 1LVT rLV 1LVT rLV 1LVT
  rLV 1LVT rLV 1LVT rLV 1LVT rLV 1LVT rLV 1LVT rLV 1LVT rLV 1LVT rLV 1LVT rLV 1LVT rLV 1LVT
  rLV 1LVT rLV 1LVT rLV 1LVT rLV 1LVT rLV 1LVT rLV 1LVT rLV 1LVT rLV 1LVT rLV 1LVT rLV 1LVT
  rLV 1LVT rLV 1LVT rLV 1LVT rLV 1LVT rLV 1LVT rLV 1LVT rLV 1LVT rLV 1LVT rLV 1LVT rLV 1LVT
  rLV 1LVT rLV 1LVT rLV 1LVT rLV 1LVT rLV 1LVT rLV 1LVT rLV 1LVT rLV 1LVT rLV 1LVT rLV 1LVT
  rLV 1LVT rLV 1LVT rLV 1LVT rLV 1LVT rLV 1LVT rLV 1LVT rLV 1LVT rLV 1LVT rLV 1LVT rLV 1LVT
  rLV 1LVT rLV 1LVT rLV 1LVT rLV 1LVT rLV 1LVT rLV 1LVT rLV 1LVT rLV 1LVT rLV 1LVT rLV 1LVT
  rLV 1LVT rLV 1LVT rLV 1LVT rLV 1LVT rLV 1LVT rLV 1LVT rLV 1LVT rLV 1LVT rLV 1LVT rLV 1LVT
  rLV 1LVT rLV 1LVT rLV 1LVT rLV 1LVT rLV 1LVT rLV 1LVT rLV 1LVT rLV 1LVT rLV 1LVT rLV 1LVT
  rLV 1LVT rLV 1LVT rLV 1LVT rLV 1LVT rLV 1LVT rLV 1LVT rLV 1LVT rLV 1LVT rLV 1LVT rLV 1LVT
  rLV 1LVT rLV 1LVT rLV 1LVT rLV 1LVT rLV 1LVT rLV 1LVT rLV 1LVT rLV 1LVT rLV 1LVT rLV 1LVT
  rLV 1LVT rLV 1LVT rLV 1LVT rLV 1LVT rLV 1LVT rLV 1LVT rLV 1LVT rLV 1LVT rLV 1LVT rLV 1LVT
  rLV 1LVT rLV 1LVT rLV 1LVT rLV 1LVT rLV 1LVT rLV 1LVT rLV 1LVT rLV 1LVT rLV 1LVT rLV 1LVT
  rLV 1LVT rLV 1LVT rLV 1LVT rLV 1LVT rLV 1LVT rLV 1LVT rLV 1LVT rLV 1LVT rLV 1LVT rLV 1LVT
  rLV 1LVT rLV 1LVT rLV 1LVT rLV 1LVT rLV 1LVT rLV 1LVT rLV 1LVT rLV 1LVT rLV 1LVT rLV 1LVT
  rLV 1LVT rLV 1LVT rLV 1LVT rLV 1LVT rLV 1LVT rLV 1LVT rLV 1LVT rLV 1LVT rLV 1LVT rLV 1LVT
  rLV 1LVT rLV 1LVT rLV 1LVT rLV 1LVT rLV 1LVT rLV 1LVT rLV 1LVT rLV 1LVT rLV 1LVT rLV 1LVT
  rLV 1LVT rLV 1LVT rLV 1LVT rLV 1LVT rLV 1LVT rLV 1LVT rLV 1LVT rLV 1LVT rLV 1LVT rLV 1LVT
  rLV 1LVT rLV 1LVT rLV 1LVT rLV 1LVT rLV 1LVT rLV 1LVT rLV 1LVT rLV 1LVT rLV 1LVT rLV 1LVT
  rLV 1LVT rLV 1LVT rLV 1LVT rLV 1LVT rLV 1LVT rLV 1LVT rLV 1LVT rLV 1LVT rLV 1LVT rLV 1LVT
  rLV 1LVT rLV 1LVT rLV 1LVT rLV 1LVT rLV 1LVT rLV 1LVT rLV 1LVT rLV 1LVT rLV 1LVT rLV 1LVT
  rLV 1LVT rLV 1LVT rXX cV nXX 4T 1dXX 6xuEX 1XX khEX gXX gEX gXX 5rCN 1XX 4eEX 2XX 28CN cXX
  e9EX 1XX 6aEX 1XX 45EX 5XX 1aeEX 3XX 1EX 2XX 5EX 4XX 14EX 3XX 4EX 1XX 4lEX 2XX fxEX 4XX
  1tEX 5XX 8tEX 2XX 27EX 4XX 1yEX bXX 1dEX 4XX 3eSM 1EX 1SM 1XX 1hEX fXX 15EX 1XX 2EX 2XX
  aEX 3SM 1XX 19SM 3EX 4SM 2EX 2XX 2PP 1XX 4EX 1XX aPP 1XX 1eEX 3XX 10EX 5SM 1EX 8XX gSM 2XX
  18EX 1XX cEX 2SM 1XX 1cSM 3EX 9SM 1EX 1XX 1PP 2XX 5EX 4XX 1SM 1EX 1XX 2kSM 3EX 3SM 2EX 4XX
  6EX 1XX 2EX 1XX 4dEX 1SM 3EX 8XX lEX 2SM 2XX 1jEX 2XX 1EX 1SM 1EX 1SM 4XX 2SM 2XX 2SM 2EX
  1XX 9EX 1XX aSM 2XX 2EX 7XX 3EX 5XX 1vEX 1SM 2EX 6XX 1EX 1XX 2EX 1XX 1EX 3SM 1XX 1SM 2EX
  3PP 1EX 1XX eEX 2XX 2aSM 3EX 8SM 2EX 3SM 1EX 1XX nEX 1XX 29EX 1SM 2EX 6SM 1EX 1SM 2EX 1SM
  1EX 2SM 1EX 2XX 6jEX 1SM 2EX 4XX 2SM 4EX 2SM 1EX 2XX rEX 2XX 2aSM 3EX 8SM 2EX 1SM 1EX 2XX
  2yEX 1SM 1EX 1SM 2EX 8XX 2tEX 1SM 1EX 1XX 2EX 4SM 1EX 5XX 74SM 3EX 9SM 1EX 2XX 6tEX 1SM
  5XX 1SM 2XX 2EX 4PP 1SM 1PP 1SM 1EX 1XX 3xSM 3EX 4XX 2EX 2SM 4EX 1XX 3SM 1XX sEX aXX 14EX
  6SM 1PP 1EX 4XX 8EX 1XX 9EX 6SM 2EX 3XX 14PP 6EX dSM 1EX 2XX b9SM 1EX 7XX 1EX 6SM 1EX 1XX
  2aEX mXX 1SM 1EX 7SM 1EX 2SM 1EX 2XX 3eEX 6XX 3EX 1XX 1EX 2XX 1EX 7PP 1EX 1XX 1uSM 5XX 1EX
  2XX 1SM 2EX 1SM 1EX 1XX 9nEX 2SM 2XX 9EX 2PP 1SM 1XX 1cSM 2EX 5XX 3SM 2EX 3XX nEX 1XX
  445CN gEX 1XX 6EX fXX 8ugEX cSM 3EX 3XX 1xcEX 5XX 1nEX 7XX fgV 1XX 3V 4XX dgEX 1XX 1SM
  1jXX 7EX 4XX 29EX 1XX bEX 2XX f57EX 2XX 1CN 4XX 3mkEX 1aXX 2EX nXX f2EX 5XX 3EX 6CN 8EX
  8XX 2EX 7XX uEX 4XX 44EX 3XX 1izEX 1jXX 4EX 1eXX 8EX 1XX eEX 1XX mEX 5XX 1EX fXX 11sEX 7XX
  1EX hXX 2EX 7XX 1EX 2XX 1EX 5XX 2sEX 1XX 4gEX 7XX afEX 1XX 1pEX 4XX e4EX 4XX 72EX 2XX kgEX
  7XX 31EX 7XX 1p7RI qXX e3EX 5XX gx6oCN wEX 2oCN 3kEX 6oCN 2s0XX"

def graphemeBreakNames : List (String × List String) := [
  ("CN", ["Control"]), ("CR", []), ("EX", ["Extend"]), ("L", []), ("LF", []), ("LV", []),
  ("LVT", []), ("PP", ["Prepend"]), ("RI", ["Regional_Indicator"]), ("SM", ["SpacingMark"]),
  ("T", []), ("V", []), ("ZWJ", [])]

def wordBreakText : String :=
  "0XX aLF 1NL 2CR 1XX iWSegSpace 1XX 1DQ 1XX 4SQ 1XX 4MN 1XX 1MB 1XX 1NU aML 1MN 1XX 5LE qXX
  4EX 1XX 1LE qXX aNL 1XX 10LE 1XX 2FO 1XX 7LE 1XX 1ML 1XX 2LE 1XX 5LE nXX 1LE vXX 1LE dcXX
  6LE yExtend 34LE 5XX 1LE 2XX 2LE 4MN 1LE 1XX 6LE 1ML 1LE 3XX 1LE 1XX 1LE kXX 1LE 2bXX 1LE
  3vXX 1Extend 7LE 4mXX 1LE 12XX 2LE 4XX 1LE 1ML 1LE 15MN 1LE 1XX 6Extend 19XX 1Extend 1XX
  1Extend 2XX 1Extend 2XX 1Extend 1XX 8HL rXX 4HL 4LE 1ML 1XX bNU 6XX 6MN 2XX 2Extend bXX
  1FO 1XX 3LE 17Extend lNU aXX 1NU 1MN 1XX 1LE 2Extend 1LE 2rXX 1LE 1Extend 7NU 1XX 1Extend
  6LE 2Extend 2XX 1Extend 4LE 2NU aLE 3XX 2LE 1XX fLE 2Extend 1LE uExtend rXX 2LE 2hExtend
  bLE 1XX eNU aLE xExtend 9LE 2XX 2MN 1XX 1LE 1XX 2Extend 1XX 2LE mExtend 4LE 1Extend 9LE
  1Extend 3LE 1Extend 5XX iLE pExtend 3XX 4LE bXX 5LE oXX 1LE 6XX 1NU 2XX 5Extend 9LE
  16Extend oNU 1Extend xLE 1iExtend 3LE 1Extend iLE 1Extend 7LE aExtend 2XX 2NU aXX 1LE
  gExtend 3XX 1LE 8XX 2LE 2XX 2LE mXX 1LE 7XX 1LE 1XX 3LE 4XX 2Extend 1LE 1Extend 7XX
  2Extend 2XX 2Extend 3LE 1XX 8Extend 1XX 4LE 2XX 1LE 3Extend 2XX 2NU aLE 2XX aLE 1XX
  1Extend 1XX 2Extend 3XX 1LE 6XX 4LE 2XX 2LE mXX 1LE 7XX 1LE 2XX 1LE 2XX 1LE 2XX 2Extend
  1XX 1Extend 5XX 4Extend 2XX 2Extend 3XX 3Extend 1XX 7LE 4XX 1LE 1XX 7NU aExtend 2LE
  3Extend 1XX bExtend 3XX 1LE 9XX 1LE 3XX 1LE mXX 1LE 7XX 1LE 2XX 1LE 5XX 2Extend 1LE
  1Extend 8XX 1Extend 3XX 1Extend 3XX 2LE 1XX fLE 2Extend 2XX 2NU aXX 9LE 1Extend 6XX
  1Extend 3XX 1LE 8XX 2LE 2XX 2LE mXX 1LE 7XX 1LE 2XX 1LE 5XX 2Extend 1LE 1Extend 7XX
  2Extend 2XX 2Extend 3XX 7Extend 3XX 4LE 2XX 1LE 3Extend 2XX 2NU aXX 1LE 1XX gExtend 1LE
  1XX 1LE 6XX 3LE 3XX 1LE 4XX 3LE 2XX 1LE 1XX 1LE 2XX 3LE 2XX 3LE 3XX 3LE cXX 4Extend 5XX
  3Extend 3XX 1Extend 4XX 2LE 1XX 6Extend 1XX eNU aXX gExtend 5LE 8XX 1LE 3XX 1LE nXX 1LE
  gXX 2Extend 1LE 1Extend 7XX 1Extend 3XX 1Extend 4XX 7Extend 2XX 1LE 3XX 2LE 1XX 2LE
  2Extend 2XX 2NU aXX gLE 1Extend 3XX 1LE 8XX 1LE 3XX 1LE nXX 1LE aXX 1LE 5XX 2Extend 1LE
  1Extend 7XX 1Extend 3XX 1Extend 4XX 7Extend 2XX 6LE 2XX 1LE 2Extend 2XX 2NU aXX 1LE
  2Extend 1XX cExtend 4LE 9XX 1LE 3XX 1LE 15Extend 2LE 1Extend 7XX 1Extend 3XX 1Extend 4LE
  1XX 5LE 3Extend 1XX 7LE 3Extend 2XX 2NU aXX aLE 6XX 1Extend 3XX 1LE iXX 3LE oXX 1LE 9XX
  1LE 1XX 2LE 7XX 3Extend 1XX 4Extend 6XX 1Extend 1XX 1Extend 8XX 6NU aXX 2Extend 2XX
  1pExtend 1XX 2Extend 7XX cExtend 8XX 1NU aXX 2fExtend 1XX 2Extend 9XX bExtend 7XX 1NU aXX
  12LE 1XX nExtend 2XX 6NU aXX bExtend 1XX 1Extend 1XX 1Extend 1XX 4Extend 2LE 8XX 1LE 10XX
  4Extend kXX 1Extend 2LE 5Extend bXX 1Extend 10XX 9Extend 1XX 2sExtend kXX 1NU aXX cExtend
  4XX 4Extend 3XX 1Extend 3XX 2Extend 7XX 3Extend 4XX dExtend cXX 1Extend 1NU aExtend 4XX
  2LE 12XX 1LE 1XX 5LE 1XX 2LE 17XX 1LE 99XX 1LE 4XX 2LE 7XX 1LE 1XX 1LE 4XX 2LE 15XX 1LE
  4XX 2LE xXX 1LE 4XX 2LE 7XX 1LE 1XX 1LE 4XX 2LE fXX 1LE 1lXX 1LE 4XX 2LE 1vXX 2Extend 3XX
  wLE gXX gLE 2eXX 2LE 6XX 3LE h8XX 2LE hWSegSpace 1LE qXX 5LE 23XX 3LE bXX 7LE iExtend 4XX
  9LE jExtend 3XX bLE iExtend 2XX cLE dXX 1LE 3XX 1Extend 2XX 1sExtend wXX 9Extend 1XX 2NU
  aXX xExtend 3FO 1Extend 1NU aXX 6LE 2hXX 7LE 5Extend 2LE yExtend 1LE 1XX 5LE 1yXX aLE vXX
  1Extend cXX 4Extend cXX aNU aXX 3kNU bXX 11LE nExtend 5XX 1lExtend aXX 1Extend tXX 2Extend
  1NU aXX 6NU aXX mExtend vXX 1dExtend 5LE 1bExtend hLE 8XX 3NU aXX hExtend 9XX cExtend 3LE
  uExtend dLE 2NU aLE 18Extend eXX cLE 10Extend kXX 8NU aXX 3LE 3NU aLE 10XX 2LE bXX 5LE
  17XX 2LE 3XX gExtend 3XX 1Extend lLE 4Extend 1LE 6Extend 1LE 2Extend 3LE 1XX 5LE 5cExtend
  1sLE 7qXX 2LE 6XX 2LE 12XX 2LE 6XX 2LE 8XX 1LE 1XX 1LE 1XX 1LE 1XX 1LE vXX 2LE 1hXX 1LE
  7XX 1LE 1XX 3LE 3XX 1LE 7XX 3LE 4XX 2LE 6XX 4LE dXX 5LE 3XX 1LE 7XX 3WSegSpace 7XX
  1WSegSpace 3XX 1Extend 1ZWJ 1FO 2XX 8MB 2XX aMB 1XX 2ML 1NL 2FO 5EX 1XX fEX 2XX 3MN 1XX
  fEX 1XX aWSegSpace 1FO 5XX 1FO aXX 1LE 1XX dLE 1XX gLE dXX 1fExtend xXX hLE 1XX 4LE 1XX
  2LE aXX 1LE 1XX 3LE 5XX 6LE 1XX 1LE 1XX 1LE 1XX 1LE 4XX 1LE bXX 2LE 4XX 5LE 5XX 4LE 1XX
  hLE 15XX mlLE 1gXX 1eeLE 6dXX 6LE 4Extend 3LE 2XX cLE 12XX 1LE 1XX 5LE 1XX 2LE 1kXX 7LE
  1XX fExtend 1LE nXX 9LE 7XX 1LE 7XX 1LE 7XX 1LE 7XX 1LE 7XX 1LE 7XX 1LE 7XX 1LE 7XX
  1Extend wXX 1bLE 1XX cwWSegSpace 1XX 4LE 1XX 10Extend 6XX 1KA 5XX 5LE 2XX 2kExtend 2KA 2XX
  3KA 2jXX 1KA 4XX 5LE 17XX 1LE 2mXX hLE wXX 1cKA gXX 5sKA 1bXX 1KA 2gXX lgoLE wdXX 1vLE
  1aXX 2LE 7hXX 3LE gNU aLE 2XX kLE 1bExtend 4XX 1Extend aXX 1LE vExtend 2LE 28Extend 2XX
  mLE 5iXX 2LE 2XX 1LE 1XX 1LE 8XX lLE gExtend 1LE 3Extend 1LE 4Extend 1LE nExtend 5XX
  4Extend 1XX jLE 1gXX cExtend 2LE 1eExtend iXX aNU aXX 6Extend iLE 6XX 3LE 1XX 1LE 2Extend
  1NU aLE sExtend 8XX 2LE nExtend dXX cLE tXX 3Extend 4LE 1bExtend eXX eLE 1NU aXX bExtend
  1XX aNU aXX 6LE 15Extend eXX 9LE 3Extend 1LE 8Extend 2XX 2NU aXX xExtend 3XX 1eExtend 1XX
  1Extend 3XX 2Extend 2XX 5Extend 2XX 1Extend 1XX uLE bExtend 5XX 2LE 3Extend 2XX aLE 6XX
  2LE 6XX 2LE 6XX 9LE 7XX 1LE 7XX 1LE 1mXX 6LE 37Extend 8XX 1Extend 2XX 2NU aXX 6LE 8mcXX
  cLE nXX 4LE 1dXX 6x0LE 7XX cLE 5XX 5HL 1Extend 1HL aXX 1HL dXX 1HL 5XX 1HL 1XX 1HL 2XX 1HL
  2XX 1HL aLE 2qXX xLE a3XX iLE 1sXX 2LE 1iXX 14LE cXX 4Extend gXX 3ML 1XX cExtend gXX 3EX
  2XX oEX 3MN 1XX 1MB 1XX 1MN 1ML 1XX qLE 5XX 1LE 3rXX 2FO 1XX 7MB 1XX 4MN 1XX 1MB 1XX 1NU
  aML 1MN 1XX 5LE qXX 4EX 1XX 1LE qXX bKA 1kExtend 2LE vXX 3LE 6XX 2LE 6XX 2LE 6XX 2LE 3XX
  sFO 3XX 4LE cXX 1LE qXX 1LE jXX 1LE 2XX 1LE fXX 2LE eXX yLE 3fXX 1xLE 1hXX 3sExtend 1XX
  3mLE tXX 3LE 1dXX fExtend 1XX vLE wXX dLE uXX 5LE 12Extend 5XX 5LE uXX 2LE 10XX 4LE 8XX
  1LE 5XX 16LE 4eXX 2NU aXX 6LE 10XX 4LE 10XX 4LE 14XX 8LE 1gXX cLE bXX 1LE fXX 1LE 7XX 1LE
  2XX 1LE bXX 1LE fXX 1LE 7XX 1LE 2XX 3LE 1gXX cLE 8nXX 9LE mXX aLE 8XX oLE 6XX 1LE 16XX 1LE
  9XX 1xLE 6XX 2LE 1XX 1LE 18XX 1LE 2XX 3LE 1XX 2LE nXX aLE nXX 9LE vXX 1tLE jXX 1LE 2XX aLE
  mXX aLE qXX 1yLE 1kXX 6LE 2XX 1sLE 1Extend 3XX 1Extend 2XX 5Extend 4LE 4XX 1LE 3XX 1LE tXX
  2Extend 3XX 4Extend 1XX wLE tXX 3LE tXX zLE 8XX 1LE sExtend 2XX pLE 1iXX aLE mXX aLE jXX
  dLE iXX 32LE 21XX 1jLE 1fXX dLE 1fXX dLE 10Extend 4XX 8NU aXX 6NU aLE sXX 3Extend 5XX 1LE
  nXX 6yLE 16XX 1Extend 2XX 3LE 2XX gLE 3XX 1jExtend 4LE tXX aLE 1XX 8LE mExtend bXX vLE
  iExtend 4XX 16LE lXX rLE nXX 9Extend 3LE 1hExtend fXX vNU aExtend 1LE 2Extend 2LE 1XX
  9Extend 4LE 19Extend bXX 2NU 1XX 4Extend 1XX aNU 1XX 2LE pXX 7NU aXX 6Extend 3LE 10Extend
  eXX 1NU aXX 4LE 1Extend 2LE 1XX 8LE zExtend 1XX 2LE 1XX 9Extend 3LE 1cExtend eLE 4XX
  4Extend 4XX 1Extend 2NU aLE 1XX 1LE 1XX zLE iXX 1LE pExtend cXX 6Extend 1LE 2Extend 1XX
  1qLE 7XX 1LE 1XX 1LE 4XX 1LE fXX 1LE aXX 7LE 1bExtend cXX 5NU aXX 6Extend 4XX 1LE 8XX 2LE
  2XX 2LE mXX 1LE 7XX 1LE 2XX 1LE 5XX 1Extend 2LE 1Extend 7XX 2Extend 2XX 2Extend 3XX 2LE
  1XX 6Extend 1XX 5LE 5Extend 2XX 2Extend 7XX 3Extend 5XX bLE aXX 1LE 1XX 2LE 1XX 1LE 12XX
  1LE 1Extend 9XX 1Extend 1XX 2Extend 1XX 1Extend 4XX 1Extend 5LE 1Extend 1LE 1XX dExtend
  2XX tLE 1hExtend iLE 4XX 5NU aXX 4Extend 1LE 3XX uLE 1cExtend kLE 2XX 1LE 1XX 8NU aXX 4mLE
  1bExtend 7XX 2Extend 9XX nLE 4Extend 2XX yLE 1cExtend hXX 3LE 1XX bNU aXX 12LE 17Extend
  dLE 1XX 7NU aXX 6NU kXX 1lExtend fXX 4NU aXX 5iLE 18Extend fXX 2tLE 1sNU aXX lLE 8XX 2LE
  1XX 2LE 8XX 1LE 2XX 1LE oExtend 6XX 1Extend 2XX 2Extend 4LE 1Extend 1LE 1Extend 2XX cNU
  aXX 1yLE 8XX 2LE 13Extend 7XX 2Extend 7LE 1XX 1LE 1Extend 1XX rLE 1Extend aLE 14Extend 7LE
  1Extend 4XX 8Extend 1XX 8LE 1Extend bLE 1aExtend gXX 3LE 1XX iLE 21XX 5jLE xXX fNU aXX 6LE
  9XX 1LE 11Extend 8XX 1Extend 8LE 1XX fNU aXX oLE uXX 2Extend mXX 1Extend eXX 21LE 7XX 1LE
  2XX 1LE 12Extend 6XX 3Extend 1XX 1Extend 2XX 1Extend 7LE 1Extend 1XX 8NU aXX 6LE 6XX 1LE
  2XX 1LE wExtend 5XX 1Extend 2XX 1Extend 5LE 1XX 7NU aXX 8mLE jExtend 4XX 9Extend 2LE
  1Extend 1LE dXX 1LE yExtend 7XX 3Extend 5XX dNU aExtend 1XX 2dLE 1XX 27LE pmXX 2uLE 33XX
  hLE 5gXX 218LE 2pXX fLE tsFO gExtend 1LE 6Extend fXX aLE 32zXX 5LE g7XX 5a1LE uExtend iNU
  aXX 1c6LE ftXX 7LE vXX 1NU aXX 6LE 27XX 1NU aXX 6LE uXX 2Extend 5XX bLE 1cExtend 7XX 9LE
  4XX cNU aXX 9LE lXX 5LE jXX c0LE 19XX 3NU aXX 5iLE 1sXX 3kLE 23XX 4Extend 1LE 1Extend 1jXX
  7Extend 4LE dXX 1sLE 2XX 1LE 1Extend 1XX bExtend 2XX cn2KA 4XX 1KA 7XX 1KA 2XX 1KA 1XX
  7zKA 3XX 1eKA 1XX eKA 4XX 23cLE 2zXX 5LE dXX 3LE 9XX 7LE aXX 3Extend 2XX 1FO 4XX 37wNU aXX
  eeExtend 1aXX 2Extend nXX f2Extend 5XX 3Extend 6FO 8Extend 8XX 2Extend 7XX uExtend 4XX
  44Extend 3XX cbLE 2dXX 1LE 1zXX 1LE 2XX 2LE 1XX 2LE 2XX 2LE 4XX 1LE cXX 1LE 1XX 1LE 7XX
  1LE 1tXX 1LE 4XX 2LE 8XX 1LE 7XX 1LE sXX 1LE 4XX 1LE 5XX 1LE 1XX 3LE 7XX 1LE 9gXX 2LE pXX
  1LE pXX 1LE vXX 1LE pXX 1LE vXX 1LE pXX 1LE vXX 1LE pXX 1LE vXX 1LE pXX 1LE 8XX 2NU 1eXX
  e8Extend 1jXX 4Extend 1eXX 8Extend 1XX eExtend 1XX mExtend 5XX 1Extend fXX uoLE vXX 6LE
  6XX 5xExtend 7XX 1Extend hXX 2Extend 7XX 1Extend 2XX 1Extend 5XX 5LE 1qXX xExtend 1XX 34LE
  19XX 3Extend 7LE 7XX 2NU aXX 4LE 1XX 8xLE uExtend 1XX hLE 18Extend 4NU aXX d2LE sExtend
  4NU aXX 5yLE uExtend 2LE 1NU aXX dhLE 7XX 1LE 4XX 1LE 2XX 1LE fXX 1LE 5hXX bExtend 7XX
  15LE 1wExtend 7LE 1XX 4NU aXX x2LE 4XX 1LE rXX 1LE 2XX 1LE 1XX 2LE 1XX 1LE aXX 1LE 4XX 1LE
  1XX 1LE 1XX 6LE 1XX 4LE 1XX 1LE 1XX 1LE 1XX 1LE 3XX 1LE 2XX 1LE 1XX 2LE 1XX 1LE 1XX 1LE
  1XX 1LE 1XX 1LE 1XX 1LE 2XX 1LE 1XX 2LE 4XX 1LE 7XX 1LE 4XX 1LE 4XX 1LE 1XX 1LE aXX 1LE
  hXX 5LE 3XX 1LE 5XX 1LE hXX hgLE qXX 6LE qXX 6LE qXX 2kRI qXX e3Extend 5XX 1kgNU aXX
  gvlzFO 1XX uExtend 2oXX 3kExtend 6oXX"

def wordBreakNames : List (String × List String) := [
  ("CR", []), ("DQ", ["Double_Quote"]), ("EX", ["ExtendNumLet"]), ("Extend", []),
  ("FO", ["Format"]), ("HL", ["Hebrew_Letter"]), ("KA", ["Katakana"]), ("LE", ["ALetter"]),
  ("LF", []), ("MB", ["MidNumLet"]), ("ML", ["MidLetter"]), ("MN", ["MidNum"]),
  ("NL", ["Newline"]), ("NU", ["Numeric"]), ("RI", ["Regional_Indicator"]),
  ("SQ", ["Single_Quote"]), ("WSegSpace", []), ("ZWJ", [])]

def sentenceBreakText : String :=
  "0XX 9SP 1LF 1SP 2CR 1XX iSP 1ST 1CL 1XX 4CL 3XX 2SC 2AT 1XX 1NU aSC 2XX 3ST 1XX 1UP qCL
  1XX 1CL 1XX 3LO qCL 1XX 1CL 1XX 7SE 1XX qSP 1XX 9LO 1CL 1XX 1FO 1XX 7LO 1XX 4LO 1CL 1XX
  4UP nXX 1UP 7LO oXX 1LO 8UP 1LO 1UP 1LO 1UP 1LO 1UP 1LO 1UP 1LO 1UP 1LO 1UP 1LO 1UP 1LO
  1UP 1LO 1UP 1LO 1UP 1LO 1UP 1LO 1UP 1LO 1UP 1LO 1UP 1LO 1UP 1LO 1UP 1LO 1UP 1LO 1UP 1LO
  1UP 1LO 1UP 1LO 1UP 1LO 1UP 1LO 1UP 1LO 1UP 1LO 1UP 1LO 1UP 1LO 1UP 1LO 2UP 1LO 1UP 1LO
  1UP 1LO 1UP 1LO 1UP 1LO 1UP 1LO 1UP 1LO 1UP 1LO 2UP 1LO 1UP 1LO 1UP 1LO 1UP 1LO 1UP 1LO
  1UP 1LO 1UP 1LO 1UP 1LO 1UP 1LO 1UP 1LO 1UP 1LO 1UP 1LO 1UP 1LO 1UP 1LO 1UP 1LO 1UP 1LO
  1UP 1LO 1UP 1LO 1UP 1LO 1UP 1LO 1UP 1LO 1UP 1LO 1UP 1LO 1UP 2LO 1UP 1LO 1UP 1LO 3UP 2LO
  1UP 1LO 1UP 2LO 1UP 3LO 2UP 4LO 1UP 2LO 1UP 3LO 3UP 2LO 1UP 2LO 1UP 1LO 1UP 1LO 1UP 2LO
  1UP 1LO 2UP 1LO 1UP 2LO 1UP 3LO 1UP 1LO 1UP 2LO 2LE 1UP 1LO 3LE 4UP 2LO 1UP 2LO 1UP 2LO
  1UP 1LO 1UP 1LO 1UP 1LO 1UP 1LO 1UP 1LO 1UP 1LO 1UP 1LO 1UP 1LO 2UP 1LO 1UP 1LO 1UP 1LO
  1UP 1LO 1UP 1LO 1UP 1LO 1UP 1LO 1UP 1LO 1UP 1LO 2UP 2LO 1UP 1LO 1UP 3LO 1UP 1LO 1UP 1LO
  1UP 1LO 1UP 1LO 1UP 1LO 1UP 1LO 1UP 1LO 1UP 1LO 1UP 1LO 1UP 1LO 1UP 1LO 1UP 1LO 1UP 1LO
  1UP 1LO 1UP 1LO 1UP 1LO 1UP 1LO 1UP 1LO 1UP 1LO 1UP 1LO 1UP 1LO 1UP 1LO 1UP 1LO 1UP 1LO
  1UP 1LO 1UP 1LO 1UP 1LO 1UP 1LO 1UP 1LO 7UP 2LO 1UP 2LO 2UP 1LO 1UP 4LO 1UP 1LO 1UP 1LO
  1UP 1LO 1UP 1LO 1xLE 1LO 10LE 7LO 2XX 4LE cXX eLO 5XX 7LE 1XX 1LE 1XX hEX 34UP 1LO 1UP 1LO
  1LE 1XX 1UP 1LO 1XX 2LO 4SC 1UP 1XX 6UP 1XX 1UP 3XX 1UP 1XX 1UP 2LO 1UP hXX 1UP 9LO zUP
  1LO 2UP 3LO 3UP 1LO 1UP 1LO 1UP 1LO 1UP 1LO 1UP 1LO 1UP 1LO 1UP 1LO 1UP 1LO 1UP 1LO 1UP
  1LO 1UP 1LO 1UP 1LO 5UP 1LO 1XX 1UP 1LO 1UP 2LO 2UP 1fLO 1cUP 1LO 1UP 1LO 1UP 1LO 1UP 1LO
  1UP 1LO 1UP 1LO 1UP 1LO 1UP 1LO 1UP 1LO 1UP 1LO 1UP 1LO 1UP 1LO 1UP 1LO 1UP 1LO 1UP 1LO
  1UP 1LO 1UP 1LO 1XX 1EX 7UP 1LO 1UP 1LO 1UP 1LO 1UP 1LO 1UP 1LO 1UP 1LO 1UP 1LO 1UP 1LO
  1UP 1LO 1UP 1LO 1UP 1LO 1UP 1LO 1UP 1LO 1UP 1LO 1UP 1LO 1UP 1LO 1UP 1LO 1UP 1LO 1UP 1LO
  1UP 1LO 1UP 1LO 1UP 1LO 1UP 1LO 1UP 1LO 1UP 1LO 1UP 1LO 1UP 1LO 1UP 2LO 1UP 1LO 1UP 1LO
  1UP 1LO 1UP 1LO 1UP 1LO 1UP 1LO 2UP 1LO 1UP 1LO 1UP 1LO 1UP 1LO 1UP 1LO 1UP 1LO 1UP 1LO
  1UP 1LO 1UP 1LO 1UP 1LO 1UP 1LO 1UP 1LO 1UP 1LO 1UP 1LO 1UP 1LO 1UP 1LO 1UP 1LO 1UP 1LO
  1UP 1LO 1UP 1LO 1UP 1LO 1UP 1LO 1UP 1LO 1UP 1LO 1UP 1LO 1UP 1LO 1UP 1LO 1UP 1LO 1UP 1LO
  1UP 1LO 1UP 1LO 1UP 1LO 1UP 1LO 1UP 1LO 1UP 1LO 1UP 1LO 1UP 1LO 1UP 1LO 1UP 1LO 1UP 1LO
  1UP 1LO 1UP 1LO 1UP 1LO 1UP 1LO 1UP 1LO 1UP 1LO 1UP 1LO 1UP 1LO 1XX 1UP 12XX 2LE 1XX 3SC
  1XX 2LO 15ST 1XX 7EX 19XX 1EX 1XX 1EX 2XX 1EX 2XX 1EX 1XX 8LE rXX 4LE 5XX cNU 6XX 6SC 2XX
  2EX bXX 1FO 1ST 3LE 17EX lNU aXX 1NU 2XX 1LE 2EX 1LE 2rST 1LE 1EX 7NU 1XX 1EX 6LE 2EX 2XX
  1EX 4LE 2NU aLE 3XX 2LE 1ST 3XX cFO 1LE 1EX 1LE uEX rXX 2LE 2hEX bLE 1XX eNU aLE xEX 9LE
  2XX 2SC 1ST 1LE 1XX 2EX 1XX 2LE mEX 4LE 1EX 9LE 1EX 3LE 1EX 5XX 9ST 1XX 1ST 1XX 3ST 2XX
  1LE pEX 3XX 4LE bXX 5LE oXX 1LE 6XX 1NU 2XX 5EX 9LE 16EX oNU 1EX xLE 1iEX 3LE 1EX iLE 1EX
  7LE aEX 2ST 2NU aXX 1LE gEX 3XX 1LE 8XX 2LE 2XX 2LE mXX 1LE 7XX 1LE 1XX 3LE 4XX 2EX 1LE
  1EX 7XX 2EX 2XX 2EX 3LE 1XX 8EX 1XX 4LE 2XX 1LE 3EX 2XX 2NU aLE 2XX aLE 1XX 1EX 1XX 2EX
  3XX 1LE 6XX 4LE 2XX 2LE mXX 1LE 7XX 1LE 2XX 1LE 2XX 1LE 2XX 2EX 1XX 1EX 5XX 4EX 2XX 2EX
  3XX 3EX 1XX 7LE 4XX 1LE 1XX 7NU aEX 2LE 3EX 1XX bEX 3XX 1LE 9XX 1LE 3XX 1LE mXX 1LE 7XX
  1LE 2XX 1LE 5XX 2EX 1LE 1EX 8XX 1EX 3XX 1EX 3XX 2LE 1XX fLE 2EX 2XX 2NU aXX 9LE 1EX 6XX
  1EX 3XX 1LE 8XX 2LE 2XX 2LE mXX 1LE 7XX 1LE 2XX 1LE 5XX 2EX 1LE 1EX 7XX 2EX 2XX 2EX 3XX
  7EX 3XX 4LE 2XX 1LE 3EX 2XX 2NU aXX 1LE 1XX gEX 1LE 1XX 1LE 6XX 3LE 3XX 1LE 4XX 3LE 2XX
  1LE 1XX 1LE 2XX 3LE 2XX 3LE 3XX 3LE cXX 4EX 5XX 3EX 3XX 1EX 4XX 2LE 1XX 6EX 1XX eNU aXX
  gEX 5LE 8XX 1LE 3XX 1LE nXX 1LE gXX 2EX 1LE 1EX 7XX 1EX 3XX 1EX 4XX 7EX 2XX 1LE 3XX 2LE
  1XX 2LE 2EX 2XX 2NU aXX gLE 1EX 3XX 1LE 8XX 1LE 3XX 1LE nXX 1LE aXX 1LE 5XX 2EX 1LE 1EX
  7XX 1EX 3XX 1EX 4XX 7EX 2XX 6LE 2XX 1LE 2EX 2XX 2NU aXX 1LE 2EX 1XX cEX 4LE 9XX 1LE 3XX
  1LE 15EX 2LE 1EX 7XX 1EX 3XX 1EX 4LE 1XX 5LE 3EX 1XX 7LE 3EX 2XX 2NU aXX aLE 6XX 1EX 3XX
  1LE iXX 3LE oXX 1LE 9XX 1LE 1XX 2LE 7XX 3EX 1XX 4EX 6XX 1EX 1XX 1EX 8XX 6NU aXX 2EX 2XX
  dLE 1cEX 1LE 2EX 7XX 5LE 7EX 8XX 1NU aXX 13LE 2XX 1LE 1XX 1LE 5XX 1LE oXX 1LE 1XX 1LE aEX
  1LE 2EX 9LE 1XX 2LE 5XX 1LE 1XX 1EX 7XX 1NU aXX 2LE 4XX wLE 1XX nEX 2XX 6NU aXX bEX 1XX
  1EX 1XX 1EX 1CL 4EX 2LE 8XX 1LE 10XX 4EX kXX 1EX 2LE 5EX bXX 1EX 10XX 9EX 1XX 1lLE 17EX
  kLE 1NU aST 2XX 4LE 6EX 4LE 4EX 3LE 1EX 3LE 2EX 7LE 3EX 4LE dEX cLE 1EX 1NU aEX 4XX 2UP
  12XX 1UP 1XX 5UP 1XX 2LE 17XX 1LO 1LE 98XX 1LE 4XX 2LE 7XX 1LE 1XX 1LE 4XX 2LE 15XX 1LE
  4XX 2LE xXX 1LE 4XX 2LE 7XX 1LE 1XX 1LE 4XX 2LE fXX 1LE 1lXX 1LE 4XX 2LE 1vXX 2EX 3XX 2ST
  1XX 4ST 2XX nLE gXX gUP 2eXX 2LO 6XX 3LE h8XX 1ST 1LE hSP 1LE qCL 2XX 3LE 23XX 3LE bXX 7LE
  iEX 4XX 9LE jEX 3ST 2XX 9LE iEX 2XX cLE dXX 1LE 3XX 1EX 2XX cLE 1gEX wST 2XX 1LE 1XX 4LE
  1EX 1XX 2NU aXX oSC 1ST 1XX 4SC 1ST 1XX 1EX 3FO 1EX 1NU aXX 6LE 2hXX 7LE 5EX 2LE yEX 1LE
  1XX 5LE 1yXX aLE vXX 1EX cXX 4EX cXX 8ST 2NU aLE uXX 2LE 5XX bLE 18XX 4LE qXX 6NU bXX 11LE
  nEX 5XX 4LE 1hEX aXX 1EX tXX 2EX 1NU aXX 6NU aXX dLE 1ST 4XX 4EX vXX 1dEX 5LE 1bEX hLE 8XX
  1ST 2NU aST 2XX 2ST 2XX bEX 9XX 9ST 3EX 3LE uEX dLE 2NU aLE 18EX eXX cLE 10EX kXX 3ST 2XX
  3NU aXX 3LE 3NU aLE 10ST 2LO 9UP 1LO 1XX 5LE 17XX 2LE 3XX gEX 3XX 1EX lLE 4EX 1LE 6EX 1LE
  2EX 3LE 1XX 5LO 5cEX 1sUP 1LO 1UP 1LO 1UP 1LO 1UP 1LO 1UP 1LO 1UP 1LO 1UP 1LO 1UP 1LO 1UP
  1LO 1UP 1LO 1UP 1LO 1UP 1LO 1UP 1LO 1UP 1LO 1UP 1LO 1UP 1LO 1UP 1LO 1UP 1LO 1UP 1LO 1UP
  1LO 1UP 1LO 1UP 1LO 1UP 1LO 1UP 1LO 1UP 1LO 1UP 1LO 1UP 1LO 1UP 1LO 1UP 1LO 1UP 1LO 1UP
  1LO 1UP 1LO 1UP 1LO 1UP 1LO 1UP 1LO 1UP 1LO 1UP 1LO 1UP 1LO 1UP 1LO 1UP 1LO 1UP 1LO 1UP
  1LO 1UP 1LO 1UP 1LO 1UP 1LO 1UP 1LO 1UP 1LO 1UP 1LO 1UP 1LO 1UP 1LO 1UP 1LO 1UP 1LO 1UP
  1LO 1UP 1LO 1UP 1LO 1UP 1LO 1UP 1LO 1UP 1LO 1UP 1LO 1UP 1LO 1UP 1LO 1UP 1LO 1UP 1LO 1UP
  1LO 1UP 1LO 1UP 1LO 1UP 1LO 1UP 1LO 1UP 1LO 1UP 1LO 1UP 1LO 1UP 1LO 1UP 1LO 1UP 1LO 1UP
  1LO 9UP 1LO 1UP 1LO 1UP 1LO 1UP 1LO 1UP 1LO 1UP 1LO 1UP 1LO 1UP 1LO 1UP 1LO 1UP 1LO 1UP
  1LO 1UP 1LO 1UP 1LO 1UP 1LO 1UP 1LO 1UP 1LO 1UP 1LO 1UP 1LO 1UP 1LO 1UP 1LO 1UP 1LO 1UP
  1LO 1UP 1LO 1UP 1LO 1UP 1LO 1UP 1LO 1UP 1LO 1UP 1LO 1UP 1LO 1UP 1LO 1UP 1LO 1UP 1LO 1UP
  1LO 1UP 1LO 1UP 1LO 1UP 1LO 1UP 1LO 1UP 1LO 1UP 1LO 1UP 1LO 1UP 1LO 1UP 1LO 1UP 1LO 1UP
  1LO 1UP 1LO 1UP 1LO 1UP 1LO 1UP 1LO 1UP 1LO 9UP 8LO 6XX 2UP 6XX 2LO 8UP 8LO 8UP 8LO 6XX
  2UP 6XX 2LO 8XX 1UP 1XX 1UP 1XX 1UP 1XX 1UP 1LO 8UP 8LO eXX 2LO 8UP 8LO 8UP 8LO 8UP 8LO
  5XX 1LO 2UP 5XX 1LO 1XX 3LO 3XX 1LO 2UP 5XX 3LO 4XX 2LO 2UP 4XX 4LO 8UP 5XX 5LO 3XX 1LO
  2UP 5XX 3SP bFO 1EX 2FO 2XX 3SC 2XX 3CL 8XX 4AT 1XX 3SE 2FO 5SP 1XX 9CL 2XX 1ST 2XX 7CL
  2ST 3XX lSP 1FO 5XX 1FO aXX 1LO 1XX bCL 2LO 1XX dCL 2XX 1LO dXX 1fEX xXX hUP 1XX 4UP 1XX
  2LO 1UP 3LO 2UP 3LO 1XX 1UP 1XX 3UP 5XX 6UP 1XX 1UP 1XX 1UP 1XX 1UP 4XX 1LO 1UP 4LO 1LE
  4LO 1XX 2LO 2UP 2XX 5UP 1LO 4XX 4LO 1XX hUP gLO gLE 3UP 1LO 1LE 4XX anCL 4XX tCL 2XX azUP
  qLO qXX hdCL 6XX 7CL eXX 27CL 2XX vCL aXX b7CL mXX 1rCL 4XX wCL 2XX eaUP 1cLO 1cUP 1LO 1UP
  3LO 2UP 1LO 1UP 1LO 1UP 1LO 1UP 4LO 1UP 1LO 2UP 1LO 8UP 3LO 1UP 1LO 1UP 1LO 1UP 1LO 1UP
  1LO 1UP 1LO 1UP 1LO 1UP 1LO 1UP 1LO 1UP 1LO 1UP 1LO 1UP 1LO 1UP 1LO 1UP 1LO 1UP 1LO 1UP
  1LO 1UP 1LO 1UP 1LO 1UP 1LO 1UP 1LO 1UP 1LO 1UP 1LO 1UP 1LO 1UP 1LO 1UP 1LO 1UP 1LO 1UP
  1LO 1UP 1LO 1UP 1LO 1UP 1LO 1UP 1LO 1UP 1LO 1UP 1LO 1UP 1LO 1UP 1LO 1UP 1LO 1UP 1LO 1UP
  1LO 1UP 1LO 1UP 1LO 1UP 1LO 1UP 1LO 1UP 1LO 1UP 1LO 1UP 1LO 1UP 1LO 1UP 1LO 1UP 1LO 1UP
  1LO 1UP 1LO 2XX 6UP 1LO 1UP 1LO 1EX 3UP 1LO 1XX 5ST 3XX 4LO 12XX 1LO 1XX 5LO 1XX 2LE 1kXX
  7LE 1XX fEX 1LE nXX 9LE 7XX 1LE 7XX 1LE 7XX 1LE 7XX 1LE 7XX 1LE 7XX 1LE 7XX 1LE 7XX 1EX
  wCL eXX eCL 2XX 2CL aXX 4ST 1LE 1XX cST 1XX 5CL 1XX gST 2CL 8XX bnSP 1SC 1ST 1XX 2LE 3CL
  aXX 2CL 8XX 1CL 3XX 1LE 9EX 6XX 1LE 5XX 2LE 5XX 4LE 2eXX 2EX 2XX 2LE 3XX 1LE 2iXX 1LE 4XX
  5LE 17XX 1LE 2mXX hLE wXX 1cLE gXX e8LE 534XX 1sLE h3hXX 1vLE 1aXX 1ST 1LE 7hXX 1ST 2LE
  gNU aLE 2XX kUP 1LO 1UP 1LO 1UP 1LO 1UP 1LO 1UP 1LO 1UP 1LO 1UP 1LO 1UP 1LO 1UP 1LO 1UP
  1LO 1UP 1LO 1UP 1LO 1UP 1LO 1UP 1LO 1UP 1LO 1UP 1LO 1UP 1LO 1UP 1LO 1UP 1LO 1UP 1LO 1UP
  1LO 1UP 1LO 1UP 1LO 1LE 1EX 4XX 1EX aXX 1LE 1UP 1LO 1UP 1LO 1UP 1LO 1UP 1LO 1UP 1LO 1UP
  1LO 1UP 1LO 1UP 1LO 1UP 1LO 1UP 1LO 1UP 1LO 1UP 1LO 1UP 1LO 1UP 1LO 3EX 2LE 28EX 2XX 1ST
  1XX 3ST 1XX vLE 9XX 2UP 1LO 1UP 1LO 1UP 1LO 1UP 1LO 1UP 1LO 1UP 1LO 1UP 1LO 3UP 1LO 1UP
  1LO 1UP 1LO 1UP 1LO 1UP 1LO 1UP 1LO 1UP 1LO 1UP 1LO 1UP 1LO 1UP 1LO 1UP 1LO 1UP 1LO 1UP
  1LO 1UP 1LO 1UP 1LO 1UP 1LO 1UP 1LO 1UP 1LO 1UP 1LO 1UP 1LO 1UP 1LO 1UP 1LO 1UP 1LO 1UP
  1LO 1UP 1LO 1UP 1LO 1UP 1LO 1UP 1LO 1UP 1LO 1UP 1LO 1UP 1LO aUP 1LO 1UP 1LO 1UP 2LO 1UP
  1LO 1UP 1LO 1UP 1LO 1UP 1LO 1LE 1XX 2UP 1LO 1UP 1LO 1LE 1UP 1LO 1UP 1LO 3UP 1LO 1UP 1LO
  1UP 1LO 1UP 1LO 1UP 1LO 1UP 1LO 1UP 1LO 1UP 1LO 1UP 1LO 1UP 1LO 1UP 5LO 1UP 5LO 1UP 1LO
  1UP 1LO 1UP 1LO 1UP 1LO 1UP 1LO 1UP 1LO 1UP 1LO 1UP 4LO 1UP 1LO 1UP 2LO 1XX 2UP 1LO 1XX
  1LO 1XX 1LO 1UP 1LO 1UP 1LO 1UP 1LO 1UP 1XX lLO 3UP 1LO 1LE 1LO 3LE 7EX 1LE 3EX 1LE 4EX
  1LE nEX 5XX 4EX 1XX jLE 1gXX 2ST 2XX 8EX 2LE 1eEX iXX 8ST 2NU aXX 6EX iLE 6XX 3LE 1XX 1LE
  2EX 1NU aLE sEX 8XX 1ST 1LE nEX dXX cLE tXX 3EX 4LE 1bEX eXX 7ST 2XX 5LE 1NU aXX 6LE 5EX
  1LE aNU aLE 5XX 1LE 15EX eXX 9LE 3EX 1LE 8EX 2XX 2NU aXX 3ST 3LE nXX 3LE 1EX 3LE 1eEX 1LE
  1EX 3LE 2EX 2LE 5EX 2LE 1EX 1LE 1XX oLE 3XX 2LE bEX 5ST 2LE 3EX 2XX aLE 6XX 2LE 6XX 2LE
  6XX 9LE 7XX 1LE 7XX 1LO 17XX 1LO eXX 6LO 28LE zEX 8ST 1EX 2XX 2NU aXX 6LE 8mcXX cLE nXX
  4LE 1dXX 6isLE a6XX 2LE 2yXX 12LO 7XX cLO 5XX 5LE 1EX 1LE aXX 1LE dXX 1LE 5XX 1LE 1XX 1LE
  2XX 1LE 2XX 1LE 30XX xLE a3CL 2XX gLE 1sXX 2LE 1iXX 14LE cXX 4EX gSC 2ST 1SC 2ST 2CL 2XX
  7EX gXX 1SC 2XX 2CL gXX 2CL 2XX 7SC 2AT 1XX 1SC 2ST 2SC 1CL 6XX 4SC 1XX cLE 5XX 1LE 3rXX
  2FO 1XX 1ST 1XX 6CL 2XX 2SC 2AT 1XX 1NU aSC 2XX 3ST 1XX 1UP qCL 1XX 1CL 1XX 3LO qCL 1XX
  1CL 1XX 1CL 2ST 1CL 2SC 1XX 1LE 1kEX 2LE vXX 3LE 6XX 2LE 6XX 2LE 6XX 2LE 3XX sFO 3XX 4LE
  cXX 1LE qXX 1LE jXX 1LE 2XX 1LE fXX 2LE eXX yLE 3fXX 1xLE 1hXX 3sEX 1XX 3mLE tXX 3LE 1dXX
  fEX 1XX vLE wXX dLE uXX 5LE 12EX 5XX 5LE uXX 2LE 10XX 4LE 8XX 1LE 5XX 16UP 14LO 14LE 26XX
  2NU aXX 6UP 10XX 4LO 10XX 4LE 14XX 8LE 1gXX cUP bXX 1UP fXX 1UP 7XX 1UP 2XX 1LO bXX 1LO
  fXX 1LO 7XX 1LO 2XX 3LE 1gXX cLE 8nXX 9LE mXX aLE 8XX oLO 1LE 2LO 3XX 1LO 16XX 1LO 9XX
  1xLE 6XX 2LE 1XX 1LE 18XX 1LE 2XX 3LE 1XX 2LE nXX aLE nXX 9LE vXX 1tLE jXX 1LE 2XX aLE mXX
  aLE qXX 1yLE 1kXX 6LE 2XX 1sLE 1EX 3XX 1EX 2XX 5EX 4LE 4XX 1LE 3XX 1LE tXX 2EX 3XX 4EX 1XX
  mST 2XX 8LE tXX 3LE tXX zLE 8XX 1LE sEX 2XX pLE 1iXX aLE mXX aLE jXX dLE iXX 32LE 21XX
  1jUP 1fXX dLO 1fXX dLE 10EX 4XX 8NU aXX 6NU aLE 6UP mXX 3EX 5XX 1LE 1LO mXX 6yLE 16XX 1EX
  2XX 3LE 2XX gLE 3XX 1jEX 4LE tXX aLE 1XX 8LE mEX bXX 4ST 5XX mLE iEX 4ST 4XX 12LE lXX rLE
  nXX 9EX 3LE 1hEX fST 2XX tNU aEX 1LE 2EX 2LE 1XX 9EX 4LE 19EX bXX 2NU 1ST 4EX 1XX aNU 1XX
  2LE pXX 7NU aXX 6EX 3LE 10EX eXX 1NU aXX 1ST 3LE 1EX 2LE 1XX 8LE zEX 1XX 2LE 1XX 9EX 3LE
  1cEX eLE 4ST 2XX 2EX 4ST 1EX 2NU aLE 1XX 1LE 1XX 1ST 2XX wLE iXX 1LE pEX cST 2XX 1ST 2XX
  1EX 1LE 2EX 1XX 1qLE 7XX 1LE 1XX 1LE 4XX 1LE fXX 1LE aST 1XX 6LE 1bEX cXX 5NU aXX 6EX 4XX
  1LE 8XX 2LE 2XX 2LE mXX 1LE 7XX 1LE 2XX 1LE 5XX 1EX 2LE 1EX 7XX 2EX 2XX 2EX 3XX 2LE 1XX
  6EX 1XX 5LE 5EX 2XX 2EX 7XX 3EX 5XX bLE aXX 1LE 1XX 2LE 1XX 1LE 12XX 1LE 1EX 9XX 1EX 1XX
  2EX 1XX 1EX 4XX 1EX 5LE 1EX 1LE 1ST 2XX bEX 2XX tLE 1hEX iLE 4ST 2XX 3NU aXX 4EX 1LE 3XX
  uLE 1cEX kLE 2XX 1LE 1XX 8NU aXX 4mLE 1bEX 7XX 2EX 9XX 1ST 2XX 5ST fLE 4EX 2XX yLE 1cEX
  hST 2XX 1LE 1XX bNU aXX 12LE 17EX dLE 1XX 7NU aXX 6NU kXX sLE rXX 2EX fXX 4NU aXX 2ST 3XX
  1LE 7XX 55LE 18EX fXX 2tUP wLO wNU aXX lLE 8XX 2LE 1XX 2LE 8XX 1LE 2XX 1LE oEX 6XX 1EX 2XX
  2EX 4LE 1EX 1LE 1EX 2ST 1XX 1ST 1XX 9NU aXX 1yLE 8XX 2LE 13EX 7XX 2EX 7LE 1XX 1LE 1EX 1XX
  rLE 1EX aLE 14EX 7LE 1EX 4XX 3ST 2XX 3EX 1XX 8LE 1EX bLE 1aEX gXX 1ST 2LE 1XX iLE 21XX
  5jLE xXX fNU aXX 6LE 9XX 1LE 11EX 8XX 1EX 8LE 1ST 2XX dNU aXX oLE uXX 2EX mXX 1EX eXX 21LE
  7XX 1LE 2XX 1LE 12EX 6XX 3EX 1XX 1EX 2XX 1EX 7LE 1EX 1XX 8NU aXX 6LE 6XX 1LE 2XX 1LE wEX
  5XX 1EX 2XX 1EX 5LE 1XX 7NU aXX 8mLE jEX 4ST 2XX 7EX 2LE 1EX 1LE dXX 1LE yEX 7XX 3EX 5ST
  2XX bNU aEX 1XX 2dLE 1XX 27LE pmXX 2uLE 33XX hLE 5gXX 218LE 2pXX fLE tsFO gEX 1LE 6EX fXX
  aLE 32zXX 5LE g7XX 5a1LE uEX iNU aXX 1c6LE ftXX 7LE vXX 1NU aXX 4ST 2LE 27XX 1NU aXX 6LE
  uXX 2EX 5ST 1XX aLE 1cEX 7ST 2XX 7LE 4ST 1XX bNU aXX 9LE lXX 5LE jXX c0LE 19XX 1ST 2NU aXX
  5iUP wLO wXX oST 1XX 2vLE 23XX 4EX 1LE 1EX 1jXX 7EX 4LE dXX 1sLE 2XX 1LE 1EX 1XX bEX 2XX
  eLE 4qgXX 8LE yeXX 15LE aXX 6w7LE 4XX 1LE 7XX 1LE 2XX 1LE 83XX fLE 1XX tLE 3XX 2LE 1XX eLE
  4XX 8LE b0XX 1s4LE 2zXX 5LE dXX 3LE 9XX 7LE aXX 3EX 2ST 1FO 4XX 37wNU aXX eeEX 1aXX 2EX
  nXX f2EX 5XX 3EX 6FO 8EX 8XX 2EX 7XX uEX 4XX 44EX 3XX cbUP qLO qUP qLO 7XX 1LO iUP qLO qUP
  1XX 1UP 2XX 2UP 1XX 2UP 2XX 2UP 4XX 1UP 8LO 4XX 1LO 1XX 1LO 7XX 1LO bUP qLO qUP 2XX 1UP
  4XX 2UP 8XX 1UP 7XX 1LO qUP 2XX 1UP 4XX 1UP 5XX 1UP 1XX 3UP 7XX 1LO qUP qLO qUP qLO qUP
  qLO qUP qLO qUP qLO qUP qLO sXX 2UP pXX 1LO pXX 1LO 6UP pXX 1LO pXX 1LO 6UP pXX 1LO pXX
  1LO 6UP pXX 1LO pXX 1LO 6UP pXX 1LO pXX 1LO 6UP 1LO 1XX 2NU 1eXX e8EX 1jXX 4EX 1eXX 8EX
  1XX eEX 1XX 3ST 1XX iEX 5XX 1EX fXX uoLO aLE 1LO kXX 6LO 6XX 5xEX 7XX 1EX hXX 2EX 7XX 1EX
  2XX 1EX 5XX 5LO 1qXX xEX 1XX 34LE 19XX 3EX 7LE 7XX 2NU aXX 4LE 1XX 8xLE uEX 1XX hLE 18EX
  4NU aXX d2LE sEX 4NU aXX 5yLE uEX 2LE 1NU aXX dhLE 7XX 1LE 4XX 1LE 2XX 1LE fXX 1LE 5hXX
  bEX 7XX 15UP yLO yEX 7LE 1XX 4NU aXX x2LE 4XX 1LE rXX 1LE 2XX 1LE 1XX 2LE 1XX 1LE aXX 1LE
  4XX 1LE 1XX 1LE 1XX 6LE 1XX 4LE 1XX 1LE 1XX 1LE 1XX 1LE 3XX 1LE 2XX 1LE 1XX 2LE 1XX 1LE
  1XX 1LE 1XX 1LE 1XX 1LE 1XX 1LE 2XX 1LE 1XX 2LE 4XX 1LE 7XX 1LE 4XX 1LE 4XX 1LE 1XX 1LE
  aXX 1LE hXX 5LE 3XX 1LE 5XX 1LE hXX hgUP qXX 6UP qXX 6UP qXX z0CL 3XX 12vNU aXX smLE wyoXX
  wLE 37eXX 6LE 66XX 2LE 4g2XX eLE 5rlXX fLE haXX 1wiLE f2XX 15uLE 3t7XX 5LE 38gXX f975FO
  1XX uEX 2oXX 3kEX 6oXX"

def sentenceBreakNames : List (String × List String) := [
  ("AT", ["ATerm"]), ("CL", ["Close"]), ("CR", []), ("EX", ["Extend"]), ("FO", ["Format"]),
  ("LE", ["OLetter"]), ("LF", []), ("LO", ["Lower"]), ("NU", ["Numeric"]), ("SC", ["SContinue"]),
  ("SE", ["Sep"]), ("SP", ["Sp"]), ("ST", ["STerm"]), ("UP", ["Upper"])]

end Umbra.Unicode
