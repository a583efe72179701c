/-!
The version of the Unicode standard that gave every code point its meaning, as stretches written
like those of the general categories, and the versions under their names, the oldest first.
-/

namespace Umbra.Unicode

def ageText : String :=
  "0V1_1 dyV3_0 4V1_1 uV3_0 8V3_2 1V4_0 1V3_0 iV4_0 3V4_1 bV5_0 eV1_1 2hV3_0 5V4_0 2V1_1
  1bV3_0 1V1_1 aV3_0 5V4_0 hV1_1 1yV3_0 9V3_2 1V4_0 8V4_1 5V4_0 3V1_1 2V3_0 1V3_2 dV5_1
  4V1_1 2V5_1 2NA 2V1_1 1V5_0 3V1_1 1V7_0 1NA 4V1_1 7NA 1V1_1 1NA 1V1_1 kNA 1V1_1 18V5_1
  1V1_1 7V3_0 1V3_2 2V1_1 1V3_0 1V1_1 1V3_0 1V1_1 1V3_0 1V1_1 1V3_0 1V1_1 iV3_1 2V3_2 1V4_0
  5V4_1 4V3_0 1V1_1 cV3_0 1V1_1 1uV3_0 1V1_1 cV3_0 1V1_1 15V5_1 1V3_0 2V3_2 2V3_0 4V1_1
  1hV3_2 2V1_1 2V3_2 2V1_1 2V3_2 2V5_0 1V1_1 sV3_0 2V1_1 8V4_1 2V1_1 2V5_0 6V3_2 gV5_0 4V5_1
  gV5_2 2V6_0 2V7_0 8NA 1V1_1 12NA 2V1_1 7V11_0 1V1_1 13V11_0 1V1_1 1V3_0 1NA 2V7_0 2V6_1
  1NA 1V2_0 hV4_1 1V2_0 dV1_1 aV5_0 1V1_1 9V2_0 1V4_1 3NA 8V1_1 rNA 4V11_0 1V1_1 5NA bV4_0
  4V6_1 1V7_0 1V5_1 5V4_1 1V1_1 1V4_0 9V5_1 5V1_1 1V6_3 1V14_0 1V4_1 1V1_1 1V6_0 1V1_1 qV5_1
  5V1_1 jV3_0 3V4_0 3V4_1 6V6_0 1V1_1 eV3_2 2V1_1 20V3_0 2V1_1 5V3_0 1V1_1 fV3_0 1V1_1 uV4_0
  2V1_1 aV3_0 5V4_0 1V3_0 eNA 1V3_0 uV4_0 3V3_0 rNA 2V4_0 3V4_1 uV5_1 iV3_0 1dV3_2 1NA eV5_0
  1nNA 2V11_0 3V5_2 1aNA 2V5_2 fNA 1V6_0 sNA 2V6_0 1NA 1V10_0 bNA 5V14_0 vNA 1V14_0 2NA
  5V16_0 1V14_0 8V6_1 1V7_0 1V6_1 bV7_0 6V8_0 2V14_0 1V9_0 8V13_0 aV14_0 bV11_0 1V9_0 fV8_0
  1V6_1 rV7_0 1V5_2 1V1_1 3V4_0 1V1_1 1hV6_0 2V1_1 iV5_2 1V6_0 1V1_1 5V5_2 1V6_0 2V1_1 pV5_1
  2V6_0 5V7_0 1V5_2 2V5_0 2V4_1 1V5_0 2V7_0 1V1_1 3NA 1V1_1 8NA 2V1_1 2NA 2V1_1 mNA 1V1_1
  7NA 1V1_1 1NA 3V1_1 4NA 2V1_1 1V4_0 1V1_1 7NA 2V1_1 2NA 2V1_1 3V4_1 1NA 8V1_1 1NA 4V1_1
  2NA 1V1_1 5NA 2V1_1 lV5_2 1V10_0 2V11_0 1NA 2V4_0 1V1_1 1V4_0 1NA 1V1_1 6NA 4V1_1 2NA
  2V1_1 mNA 1V1_1 7NA 1V1_1 2NA 1V1_1 2NA 1V1_1 2NA 2V1_1 1NA 1V1_1 5NA 4V1_1 2NA 2V1_1 3NA
  3V5_1 1NA 7V1_1 4NA 1V1_1 1NA 7V1_1 fV5_1 1V11_0 1NA aV1_1 3NA 1V1_1 7V4_0 1V1_1 1NA 1V1_1
  3NA 1V1_1 mNA 1V1_1 7NA 1V1_1 2NA 1V1_1 5NA 2V1_1 aNA 1V1_1 3NA 1V1_1 3NA 2V1_1 1NA fV1_1
  1V4_0 3NA 2V1_1 aV6_1 1V4_0 1NA 7V8_0 1V10_0 6NA 1V1_1 3NA 1V1_1 8NA 2V1_1 2NA 2V1_1 mNA
  1V1_1 7NA 1V1_1 2NA 1V4_0 1V1_1 4NA 2V1_1 8V5_1 1NA 2V1_1 2NA 2V1_1 3NA 7V13_0 1V1_1 2NA
  4V1_1 2NA 1V1_1 3V5_1 2NA 2V1_1 bV4_0 1V6_0 6NA aV1_1 2NA 1V1_1 6NA 3V1_1 3NA 1V1_1 4NA
  3V1_1 2NA 1V1_1 1NA 1V1_1 2NA 3V1_1 2NA 3V1_1 3NA 3V1_1 8V4_1 1V1_1 3NA 4V1_1 5NA 3V1_1
  3NA 1V1_1 4NA 2V5_1 1NA 6V1_1 1NA eV4_1 1V1_1 cV4_0 8NA 5V7_0 1V1_1 3V11_0 1V1_1 8NA 1V1_1
  3NA 1V1_1 nNA 1V1_1 aV7_0 1V1_1 5NA 2V14_0 1V5_1 1V1_1 7NA 1V1_1 3NA 1V1_1 4NA 7V1_1 2NA
  1V5_1 2V8_0 1NA 2V14_0 1NA 2V1_1 2V5_1 2NA 2V1_1 aNA 7V12_0 1V5_1 8V9_0 1V7_0 1V1_1 2V11_0
  1V1_1 8NA 1V1_1 3NA 1V1_1 nNA 1V1_1 aNA 1V1_1 5NA 2V4_0 2V1_1 7NA 1V1_1 3NA 1V1_1 4NA
  7V1_1 2NA 6V14_0 1V1_1 1NA 1V1_1 2V5_0 2NA 2V1_1 aNA 1V5_0 2V15_0 1NA cV10_0 1V7_0 1V1_1
  2V13_0 1V1_1 8NA 1V1_1 3NA 1V1_1 nV6_0 1V1_1 gV6_0 1V10_0 2V5_1 1V1_1 6V5_1 1NA 1V1_1 3NA
  1V1_1 4V6_0 1V9_0 1NA 4V9_0 3V1_1 1V9_0 7V8_0 1V1_1 2V5_1 2NA 2V1_1 aV5_1 6V9_0 3V5_1 7NA
  1V13_0 1V3_0 2NA 1V3_0 iNA 3V3_0 oNA 1V3_0 9NA 1V3_0 1NA 2V3_0 7NA 3V3_0 1NA 4V3_0 6NA
  1V3_0 1NA 1V3_0 8NA 6V7_0 aNA 2V3_0 3NA cV1_1 1mNA 4V1_1 tNA 11V1_1 2NA 1V1_1 1NA 1V12_0
  1V1_1 2V12_0 1V1_1 1NA 1V12_0 1V1_1 1V12_0 6V1_1 4V12_0 1V1_1 7V12_0 1V1_1 3NA 1V1_1 1NA
  1V1_1 1V12_0 2V1_1 2V12_0 1V1_1 dV12_0 1V1_1 3NA 2V1_1 5NA 1V1_1 1NA 1V1_1 6V15_0 1NA
  1V1_1 aNA 2V1_1 2V6_1 2NA wV2_0 20NA 1V2_0 xV3_0 1V5_1 2NA 4V2_0 rV6_0 4V2_0 6V3_0 1V2_0
  1NA 1V2_0 lV3_0 3V2_0 7V3_0 1V2_0 1V3_0 3NA 1V3_0 fNA 1V5_1 1V3_0 1V4_1 2V5_1 3V5_2 4V6_0
  2NA 11V3_0 yV5_1 1V3_0 5V5_1 1V3_0 2V5_1 1V3_0 7V5_1 3V3_0 4V5_1 6V3_0 qV5_1 1sV5_2 4V5_1
  2V1_1 12NA 1V6_1 1NA 5V6_1 1NA 2V1_1 13V3_2 2V4_1 2V1_1 1V4_1 1V6_1 3V1_1 2iV5_2 5V1_1
  1wV5_2 5V1_1 2aV5_2 6V3_0 7V4_1 1V3_0 1rV4_1 1V3_0 1NA 1V3_0 4NA 2V3_0 7NA 1V3_0 1NA 1V3_0
  4NA 2V3_0 13V4_1 1V3_0 1NA 1V3_0 4NA 2V3_0 vV4_1 1V3_0 1NA 1V3_0 4NA 2V3_0 7NA 1V3_0 1NA
  1V3_0 4NA 2V3_0 7V4_1 1V3_0 7NA 1V3_0 nV4_1 1V3_0 vV4_1 1V3_0 1NA 1V3_0 4NA 2V3_0 7V4_1
  1V3_0 13V4_1 1V3_0 jNA 2V6_0 2V4_1 2V3_0 sNA 3V4_1 qNA 6V3_0 2dV8_0 1NA 2V8_0 6NA 2V5_2
  1V3_0 hiV5_2 9V3_0 tNA 3V3_0 29V7_0 8NA 7V3_2 dV14_0 1V3_2 7V14_0 1NA 9V14_0 1V3_2 nNA
  9V3_2 kNA cV3_2 dNA 1V3_2 3NA 1V3_2 2NA cV3_0 2lV4_0 1NA 2V3_0 aNA 6V4_0 aNA 6V3_0 fV14_0
  1V3_0 aNA 6V3_0 2gV11_0 1NA 7V3_0 16V5_1 1NA 5V5_2 1yNA aV4_0 tV7_0 2NA 1V4_0 cNA 4V4_0
  cNA 4V4_0 1NA 3V4_0 16NA 2V4_0 5NA bV4_1 16V5_2 2NA 4V4_1 qNA 6V4_1 aV5_2 1NA 3V4_1 2V4_0
  wV4_1 sNA 2V4_1 2V5_2 1rNA 1V5_2 tNA 2V5_2 bNA 6V5_2 aNA 6V5_2 eNA 2V7_0 fV13_0 2V14_0 eNA
  1dV5_0 24V14_0 1NA 1V16_0 2V5_0 19V14_0 2V16_0 1V5_1 17V6_1 3V5_1 cV6_1 6V6_0 1gNA 8V6_0
  4V5_1 1kNA 3V5_1 fNA 3V5_1 1fV9_0 9V16_0 2NA 5V11_0 17NA 2V11_0 3V6_1 8NA 8V5_2 zV6_1
  4V10_0 1V7_0 2V12_0 1NA 5V4_0 30V4_1 2gV5_0 7V5_1 sV7_0 fV10_0 4V14_0 1V9_0 1V6_0 1V5_2
  1V5_0 2V1_1 4bV2_0 1V5_1 4V1_1 2iV5_1 6V1_1 mNA 2V1_1 6NA 2V1_1 12NA 2V1_1 6NA 2V1_1 8NA
  1V1_1 1NA 1V1_1 1NA 1V1_1 1NA 1V1_1 vNA 2V1_1 1hNA 1V1_1 fNA 1V1_1 eNA 2V1_1 6NA 1V1_1 jNA
  2V1_1 3NA 1V1_1 9NA 1V1_1 1bV3_0 1V1_1 nV3_2 1V3_0 6V3_2 5V4_0 2V4_1 2V3_2 1V4_1 7V3_2
  5V5_1 1NA 1V6_3 4V1_1 7V3_2 1NA 2V1_1 rNA 1V4_1 5V6_0 8NA 3V1_1 bV2_0 1V2_1 1V3_0 3V3_2
  2V4_1 4V5_2 3V6_0 1V6_2 1V7_0 3V8_0 1V10_0 1V14_0 1NA fV1_1 iV3_0 2V3_2 7V4_1 1V5_0 4V5_1
  1NA fV1_1 1lV3_0 2V4_0 1V4_1 1V3_2 fV4_1 1V5_0 2V5_1 1V5_2 3V1_1 1cV3_0 1V5_0 1V5_1 4V5_2
  1V8_0 2NA 4V1_1 2jV3_0 9V3_2 cV1_1 6qV3_2 eV1_1 1V3_0 1V1_1 3dV3_0 1V3_2 1V3_0 uV3_2
  1gV4_0 2V4_1 bV5_0 cV5_2 1V6_0 bV7_0 7V9_0 4V10_0 1V1_1 11V3_0 2V16_0 3NA mV1_1 bNA lV1_1
  3vV3_2 kV4_0 1V1_1 46V3_2 aV1_1 28V3_0 8V3_2 8V1_1 kV4_0 2V3_2 2V4_1 1V3_0 1V1_1 2eV3_0
  2V3_2 cV4_1 2V3_2 aV4_0 8V4_1 bV5_1 1V5_2 2V4_0 2V4_1 gV5_0 1V5_1 aV5_2 3V5_1 4V5_2 aV6_0
  1V5_2 jV6_0 1V5_2 1V6_0 4V5_2 oV7_0 1V1_1 4V6_0 1V1_1 4V6_0 2V1_1 sV6_0 1V1_1 zV6_0 1V1_1
  1V6_0 1V1_1 4V6_0 3V1_1 1V5_2 1V1_1 7V6_0 2V1_1 7V3_2 eV1_1 vV6_0 3V1_1 oV6_0 1V1_1 eV6_0
  1V4_1 7V5_0 4V6_1 1V5_1 1V6_1 1V6_0 2V3_2 sV5_1 4V3_2 gV3_0 74V3_2 e8V4_0 eV4_1 6V5_0
  7V5_1 5V5_0 4V5_1 15V7_0 3V5_1 5V5_2 5V7_0 qNA 2V7_0 wNA 1V13_0 1V7_0 yV11_0 3V7_0 cV12_0
  1V7_0 8V10_0 1V11_0 pV8_0 4V11_0 fV12_0 1V4_1 1bV14_0 1V4_1 1bV14_0 1V5_0 dV5_1 3V5_2
  1V5_1 3V5_0 4V5_1 6V5_2 2V4_1 2zV5_2 7V6_1 2NA 5V4_1 19NA 1V6_1 1NA 5V6_1 1NA 2V4_1 1iV6_1
  2NA 7V4_1 1V6_0 1NA eV6_0 1V4_1 nNA 9V4_1 7NA 1V4_1 7NA 1V4_1 7NA 1V4_1 7NA 1V4_1 7NA
  1V4_1 7NA 1V4_1 7NA 1V4_1 7NA 1V5_1 wV4_1 oV5_1 4V4_1 2V5_1 jV5_2 1V6_1 aV7_0 7V9_0 2V10_0
  5V11_0 5V12_0 1V13_0 3V14_0 bNA yV3_0 qNA 1V3_0 2hNA cV3_0 5yNA qV3_0 cV15_1 4V1_1 1kV3_0
  3V3_2 3V3_0 1V1_1 1NA 1V1_1 2cV3_2 2NA 2V1_1 6V3_2 2V1_1 2mV3_2 1NA 5V1_1 14V5_1 1V10_0
  1V11_0 1NA 1V1_1 2mNA 1V1_1 gV3_0 oV6_0 3V13_0 5V4_1 gV5_1 kV16_0 2NA 9V15_1 1V3_2 gV1_1
  tV4_0 2NA 1V1_1 10V5_2 cV4_0 1V3_2 fV1_1 sV4_0 2V4_1 1V1_1 1eV3_2 fV1_1 cV4_0 4V1_1
  1bV12_1 1V1_1 3bV4_0 4V1_1 2rV4_0 2V1_1 vV4_0 1V3_0 52uV13_0 aV4_0 1sV1_1 g4mV4_1 mV5_1
  8V5_2 8V6_1 1V8_0 9V10_0 lV11_0 5V13_0 dV14_0 3V3_0 wdNA 3V3_0 iV3_2 2V3_0 gV3_2 1V3_0
  cV3_2 1V3_0 3V3_2 1V3_0 1NA 9V5_2 1cV5_1 8cNA kV5_1 wV6_0 2V5_1 iV6_1 8V5_1 sV7_0 6V8_0
  1V6_1 1V5_2 2gNA 8V4_1 nV5_0 4V5_1 5V5_0 2V5_1 2zV6_0 2V8_0 1V6_0 2V6_1 2V7_0 cV6_0 aV6_1
  1V7_0 3V9_0 1V11_0 1V7_0 2V8_0 6V11_0 2V12_0 6V14_0 2V12_0 5V13_0 4V16_0 3NA 2V14_0 2NA
  1V14_0 1NA 1V14_0 5V16_0 3NA lV14_0 3V13_0 2V7_0 1V6_1 2V6_0 1V5_1 5V4_1 18V13_0 1NA 3V5_2
  aNA 6V5_0 1kNA 8V5_1 1xV9_0 1NA 8V5_1 cNA 6V5_2 sV8_0 2V11_0 2V5_1 2cNA bV5_1 1V5_2 tNA
  3V5_2 26NA 1V5_2 bNA 4V5_2 2V7_0 vNA 1V5_1 1jNA 9V5_1 eNA 2V5_1 aNA 2V5_1 4V5_2 sV7_0
  4V5_2 1vNA oV5_2 5V6_1 nNA aV6_0 6NA 2V6_0 6NA 2V6_0 6NA 9V6_0 7NA 1V6_0 7NA 1V7_0 1cV8_0
  4V7_0 2V12_0 2V13_0 4NA 4V8_0 28V5_2 1aNA 2V5_2 aNA 6V2_0 8mcNA cV5_2 nNA 4V5_2 1dNA
  1l0V1_1 566V6_1 2V3_2 1nV5_2 3NA 2V4_1 2yNA 12V1_1 7NA cV1_1 5NA 5V3_0 1V1_1 pNA 1V1_1 5NA
  1V1_1 1NA 1V1_1 2NA 1V1_1 2NA 1V1_1 30V6_0 gV14_0 1NA gV1_1 a5V14_0 gV1_1 1sNA 2V1_1 1iNA
  7V14_0 1V3_1 wV1_1 cV3_2 1V4_0 1V14_0 2V3_2 gV4_1 aNA 6V1_1 4V5_1 3V7_0 7V8_0 2V1_1 lV3_2
  2V4_0 2V1_1 aNA 1V1_1 jNA 1V1_1 4NA 4V1_1 3V3_2 1V1_1 1NA 1V1_1 3rNA 2V1_1 1NA 1V1_1
  2mV3_2 2V1_1 2mNA 3V1_1 6NA 2V1_1 6NA 2V1_1 6NA 2V1_1 3NA 3V1_1 7NA 1V1_1 7NA aV3_0 3V2_1
  1V1_1 3V4_0 cNA 1V4_0 qNA 1V4_0 jNA 1V4_0 2NA 1V4_0 fNA 2V4_0 eNA yV4_0 3fNA 5V4_0 3NA
  4V4_0 19NA 3V4_0 9V4_1 23V7_0 2V9_0 2NA 1V5_1 cV13_0 1NA 3V7_0 1NA 1bV5_1 1aNA 3mV5_1 tNA
  3V5_1 1dNA fV7_0 sNA 4V3_1 vV7_0 1V3_1 4NA 9V10_0 3V3_1 rNA 5V7_0 17NA 5V4_0 uNA 1V4_0
  1V4_1 10NA 4V4_1 eNA 16V3_1 12V4_0 2V3_1 12V4_0 28NA 2V4_0 aNA 6V9_0 10NA 4V9_0 10NA 4V7_0
  14NA 8V7_0 1gNA bV7_0 1V14_0 bNA 1V14_0 fNA 1V14_0 7NA 1V14_0 2NA 1V14_0 bNA 1V14_0 fNA
  1V14_0 7NA 1V14_0 2NA 3V16_0 1gNA cV7_0 8nNA 9V7_0 mNA aV7_0 8NA oV14_0 6NA 1V14_0 16NA
  1V14_0 9NA 1xV4_0 6NA 2V4_0 1NA 1V4_0 18NA 1V4_0 2NA 3V4_0 1NA 2V4_0 1V5_2 mNA 1V5_2 9V7_0
  1rNA 8V7_0 9NA 1cV8_0 jNA 1V8_0 2NA 5V8_0 5V5_0 qV5_2 2NA 3V5_0 1V5_1 qNA 5V5_1 1NA 1sV6_1
  1kNA 4V8_0 2V6_1 2V8_0 gNA 2V8_0 1aV4_1 4NA 1V4_1 2NA 5V4_1 8NA 1V4_1 3NA 1V4_1 rV11_0 2NA
  2V4_1 3NA 4V4_1 9V11_0 1NA 7V4_1 9NA 7V5_2 wV7_0 wNA wV7_0 13NA 4V7_0 cNA 9V5_2 1iNA 3V5_2
  tNA 2V5_2 rNA 5V5_2 8V7_0 iNA 7V7_0 4NA cV7_0 7NA 28V5_2 21NA 1jV8_0 1fNA dV8_0 1fNA 7V8_0
  6V11_0 14NA 8V11_0 aNA 6V16_0 12NA 3V16_0 tNA 8V16_0 2NA 5sV5_2 vNA 1V13_0 16NA 1V13_0 3NA
  2V13_0 2NA gV16_0 3NA 1jV16_0 1V15_0 3V11_0 14NA 8V11_0 16NA mV14_0 qNA 12V13_0 sNA kV12_0
  nNA 9V6_0 26NA 4V6_0 uV14_0 6NA 9V7_0 1V5_2 1uV14_0 1NA aV11_0 1NA 2V6_1 pNA 7V6_1 aNA
  6V6_1 1hNA 1V6_1 eV11_0 3V13_0 1NA 8V7_0 13NA 9V6_1 21V8_0 4V7_0 1V13_0 2V6_1 aV7_0 1V8_0
  5NA 1V7_0 kNA bV7_0 iNA 1V7_0 17V9_0 1V15_0 3NA 1qV8_0 7NA 1V8_0 1NA 1V8_0 4NA 1V8_0 fNA
  1V8_0 bNA 6V7_0 1nNA 5V7_0 aNA 6V8_0 1V7_0 3NA 1V7_0 8NA 2V7_0 2NA 2V7_0 mNA 1V7_0 7NA
  1V7_0 2NA 1V7_0 5NA 1V11_0 1V7_0 9NA 2V7_0 2NA 2V7_0 3NA 2V8_0 1NA 6V7_0 1NA 5V7_0 7NA
  2V7_0 7NA 3V7_0 5NA bV16_0 aNA 1V16_0 1NA 2V16_0 1NA 1V16_0 12NA 1V16_0 aNA 1V16_0 1NA
  2V16_0 1NA 1V16_0 4NA 1V16_0 aNA 1V16_0 2NA 8V16_0 2NA tV9_0 2iV13_0 1V9_0 1NA 1V9_0
  1V11_0 1V12_0 1V13_0 2NA uV7_0 20NA 8V7_0 aNA 4mV7_0 1iNA 2V7_0 iV8_0 kNA yV7_0 1xNA bV7_0
  aNA 6V9_0 dNA jV6_1 1kV12_0 1V14_0 1NA 6V6_1 aNA 6V16_0 kNA sV8_0 qV11_0 1NA 2V8_0 fNA
  4V8_0 gV14_0 7NA 55V11_0 1oNA 2sV7_0 2bNA cV7_0 1V13_0 7NA 2V13_0 1NA 2V13_0 8NA 1V13_0
  2NA 1V13_0 uNA 1V13_0 2NA 2V13_0 cNA 9V13_0 aNA 1yV12_0 8NA 2V12_0 1aNA 2V12_0 bNA rV10_0
  20NA 8V10_0 1gV12_0 2V10_0 nV11_0 1V10_0 5NA dV14_0 gV7_0 1lNA 7V15_0 aNA 52V16_0 yNA
  eV16_0 aNA 6V9_0 9NA 1V9_0 19NA 1V9_0 eNA aV9_0 tNA 3V9_0 wNA 2V9_0 mNA 1V9_0 eNA 21V10_0
  7NA 1V10_0 2NA 1V10_0 18NA 3V10_0 1NA 1V10_0 2NA 1V10_0 9NA 8V10_0 aNA 6V11_0 6NA 1V11_0
  2NA 1V11_0 11NA 1V11_0 2NA 1V11_0 6NA 7V11_0 aNA 8mV11_0 pNA 7V15_0 hNA 1V15_0 15NA 3V15_0
  sV16_0 1NA 2dV13_0 1NA fV12_0 1eNA dV12_0 1V5_0 ofV7_0 16V8_0 1NA 2uV5_0 2rV7_0 cNA 1V5_0
  4V7_0 1NA bV8_0 5gNA 218V14_0 2rNA dV5_2 trV15_0 1V12_0 9V15_0 tNA aV16_0 32zNA 5V8_0 g7NA
  5a1V16_0 1mNA 1c6V6_0 ftNA 7V7_0 vNA 1V7_0 aNA 4V7_0 2V14_0 27NA 1V14_0 aNA 6V7_0 uNA
  2V7_0 6NA aV7_0 1yNA aV7_0 aNA 1V7_0 7NA 1V7_0 lNA 5V7_0 jNA c0V16_0 1mNA 5iV11_0 2jNA
  2tV6_1 1xV12_0 6NA 4V12_0 1V6_1 1bV12_0 9NA 7V6_1 hNA 1sV9_0 1V10_0 1V12_0 2V13_0 1NA
  bV13_0 2NA eV9_0 4q5V11_0 5V12_0 6NA 8V9_0 kzV13_0 dfNA 15V16_0 1V13_0 9NA 6w7V14_0 4NA
  1V14_0 7NA 1V14_0 2NA 1V6_0 2V10_0 7xV14_0 4NA fV15_0 1NA tV12_0 3NA 2V15_0 1NA eV12_0 4NA
  8V10_0 b0NA 1s4V7_0 2zNA 5V7_0 dNA 3V7_0 9NA 7V7_0 aNA 2V7_0 8NA 318V16_0 6yNA 6V16_0 c4NA
  24V14_0 1aNA 2V14_0 nNA 9V14_0 38NA 1oV3_1 6uNA aV3_1 13NA 2V5_1 1V3_1 50V8_0 bV14_0 2NA
  lV4_1 1yNA 3eV15_0 kNA cV11_0 kNA cV4_0 2fNA 9V5_0 iV11_0 7NA 3rV3_1 2dNA 1V3_1 1zNA 1V3_1
  2NA 2V3_1 1NA 2V3_1 2NA 2V3_1 4NA 1V3_1 cNA 1V3_1 1NA 1V3_1 4V4_0 1V3_1 2NA 1V3_1 1tNA
  1V3_1 4NA 2V3_1 8NA 1V3_1 7NA 1V3_1 sNA 1V3_1 4NA 1V3_1 5NA 1V3_1 1NA 3V3_1 7NA 1V3_1
  9eV4_1 2NA 2V3_1 82V5_0 2NA 2V3_1 1eV8_0 i4NA fV8_0 5NA 1V8_0 fNA uoV14_0 vNA 6V15_0 6NA
  5xV9_0 7NA 1V9_0 hNA 2V9_0 7NA 1V9_0 2NA 1V9_0 5NA 5V15_0 1qNA xV15_0 1NA 34V12_0 19NA
  3V12_0 eNA 2V12_0 aNA 4V12_0 2NA 8wV14_0 vNA hV12_0 1mNA 5V12_0 1NA cwV15_0 16NA 5yV16_0
  17NA 4V16_0 1NA dcV14_0 7NA 1V14_0 4NA 1V14_0 2NA 1V14_0 fNA 1V7_0 5hNA 2V7_0 gNA 15V9_0
  23V12_0 1NA 4V9_0 aNA 4V9_0 2NA ltV11_0 1wNA 24V12_0 1pNA 5eV6_1 4NA 1V6_1 rNA 1V6_1 2NA
  1V6_1 1NA 2V6_1 1NA 1V6_1 aNA 1V6_1 4NA 1V6_1 1NA 1V6_1 1NA 6V6_1 1NA 4V6_1 1NA 1V6_1 1NA
  1V6_1 1NA 1V6_1 3NA 1V6_1 2NA 1V6_1 1NA 2V6_1 1NA 1V6_1 1NA 1V6_1 1NA 1V6_1 1NA 1V6_1 1NA
  1V6_1 2NA 1V6_1 1NA 2V6_1 4NA 1V6_1 7NA 1V6_1 4NA 1V6_1 4NA 1V6_1 1NA 1V6_1 aNA 1V6_1 hNA
  5V6_1 3NA 1V6_1 5NA 1V6_1 hNA 1gV6_1 2NA 7iV5_1 18NA 4V5_1 2sNA cV6_0 fNA 2V6_0 eV7_0 1NA
  1V6_0 fNA 1V6_0 fV7_0 mNA aV5_2 bV7_0 2V13_0 3V5_2 vV11_0 1V6_0 1V5_2 1V6_0 bV5_2 1V6_0
  1V5_2 1V6_0 2V5_2 1V6_0 3V5_2 1V6_0 3V5_2 5V6_0 8V5_2 1V6_0 7V5_2 1V6_0 aV6_1 2V12_0
  1V13_0 3V6_0 9V5_2 1V6_0 1V5_2 2V6_0 2V5_2 1V6_0 aV5_2 4V6_0 2V5_2 1V6_0 aV9_0 iV13_0 1NA
  1kV6_0 qV5_2 1V6_0 2NA dV5_2 yV6_0 9V9_0 1NA 4V5_2 9NA 7V6_0 2NA eV10_0 6NA 4aV6_0 xV7_0
  cV8_0 3V6_0 6V7_0 1V6_0 1yV7_0 1V8_0 2V6_0 kV7_0 cV6_0 11V7_0 1V6_0 5V7_0 4V8_0 5V7_0
  cV6_0 hV7_0 7V8_0 8V6_0 1rV7_0 1V6_0 1V7_0 1V6_0 52V7_0 1V6_0 4V7_0 2V8_0 1V6_0 1qV7_0
  2V6_1 4V7_0 7V8_0 5V6_0 oV7_0 iV9_0 1V7_0 15V9_0 1V7_0 2eV6_0 5V6_1 1V6_0 gV6_1 1V6_0
  3V6_1 1V6_0 1V6_1 1V6_0 1V6_1 1V6_0 1V6_1 1V6_0 3V6_1 1V6_0 6V6_1 2V6_0 4V6_1 1V6_0 1V6_1
  2V6_0 4V6_1 1V6_0 cV7_0 2V8_0 2V6_0 bV7_0 1cV6_0 1yV7_0 aV8_0 1V9_0 2V10_0 2V12_0 1V13_0
  2NA 4V15_0 1V14_0 3V7_0 dNA 3V7_0 4V9_0 3V10_0 2V11_0 1V12_0 1V13_0 2NA 3V6_0 38V15_0 3NA
  4V15_0 5V7_0 2dV11_0 4V15_0 1NA 6V12_0 cNA 4V14_0 1NA fV7_0 cNA 4V7_0 1kNA 8V7_0 aNA 6V7_0
  14NA 8V7_0 uNA 2V13_0 2V16_0 aNA 4V16_0 2NA 1qV10_0 cV13_0 1V12_0 3V8_0 9V9_0 6V10_0 1V9_0
  8V10_0 8V9_0 1V10_0 2V9_0 cV12_0 1V9_0 cV10_0 1V11_0 3V9_0 fV10_0 dV11_0 5V12_0 1V13_0
  1V11_0 4V13_0 2V14_0 1V11_0 1V12_0 1V11_0 4V8_0 5V9_0 dV10_0 6V11_0 bV13_0 2V12_0 6V13_0
  3V12_0 2V11_0 aV12_0 6V8_0 1V11_0 2V12_0 8V13_0 1V14_0 1V12_0 3V10_0 nV11_0 pV12_0 2cNA
  cV11_0 eNA 2V12_0 4V13_0 1V15_0 3V12_0 3V14_0 2NA 3V12_0 3V13_0 4V15_0 2V16_0 1NA 5V16_0
  1V12_0 6V13_0 jV14_0 4V15_0 3V13_0 7V14_0 4V15_0 3V16_0 1V15_0 1V13_0 3V14_0 3V16_0 1NA
  7V15_0 2V13_0 7V14_0 3V15_0 2V16_0 1NA 2V16_0 1V14_0 8V15_0 1V16_0 1NA 6V14_0 7V15_0 2NA
  7V13_0 43NA 1V13_0 1jV16_0 11V13_0 aNA skV2_0 2V3_1 wyfV13_0 7V14_0 2NA wV5_2 379V14_0
  4V15_0 1NA 6V6_0 66NA 2V8_0 4g2NA eV10_0 5rlNA fV15_1 haNA 1wiV3_1 f2NA 15sV2_0 2V13_0
  3t7NA 5V15_0 38gNA 17imV2_0 2NA 1ekeV2_0 2NA 1ekeV2_0 2NA 1ekeV2_0 2NA 1ekeV2_0 2NA
  1ekeV2_0 2NA 1ekeV2_0 2NA 1ekeV2_0 2NA 1ekeV2_0 2NA 1ekeV2_0 2NA 1ekeV2_0 2NA 1V3_1 1NA
  uV3_1 2oNA 3kV4_0 6oNA 1e6mV2_0"

def ageNames : List (String × List String) := [
  ("V1_1", ["1.1"]), ("V2_0", ["2.0"]), ("V2_1", ["2.1"]), ("V3_0", ["3.0"]), ("V3_1", ["3.1"]),
  ("V3_2", ["3.2"]), ("V4_0", ["4.0"]), ("V4_1", ["4.1"]), ("V5_0", ["5.0"]), ("V5_1", ["5.1"]),
  ("V5_2", ["5.2"]), ("V6_0", ["6.0"]), ("V6_1", ["6.1"]), ("V6_2", ["6.2"]), ("V6_3", ["6.3"]),
  ("V7_0", ["7.0"]), ("V8_0", ["8.0"]), ("V9_0", ["9.0"]), ("V10_0", ["10.0"]),
  ("V11_0", ["11.0"]), ("V12_0", ["12.0"]), ("V12_1", ["12.1"]), ("V13_0", ["13.0"]),
  ("V14_0", ["14.0"]), ("V15_0", ["15.0"]), ("V15_1", ["15.1"]), ("V16_0", ["16.0"])]

end Umbra.Unicode
