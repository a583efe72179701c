/-!
The script of every code point, as stretches written like those of the general categories, the names
of the scripts, and how the extended scripts differ: for a script, the places where belonging to it
and belonging to its extension part and meet again, as distances in base 36.
-/

namespace Umbra.Unicode

def scriptText : String :=
  "0Zyyy 1tLatn qZyyy 6Latn qZyyy 1bLatn 1Zyyy fLatn 1Zyyy 5Latn nZyyy 1Latn vZyyy 1Latn
  chZyyy 13Latn 5Zyyy 5Bopo 2Zyyy kZinh 34Grek 4Zyyy 1Grek 3Zzzz 2Grek 4Zyyy 1Grek 1Zzzz
  4Grek 1Zyyy 1Grek 1Zyyy 1Grek 3Zzzz 1Grek 1Zzzz 1Grek kZzzz 1Grek 1rCopt eGrek gCyrl
  3pZinh 2Cyrl 4pZzzz 1Armn 12Zzzz 2Armn 1eZzzz 2Armn 3Zzzz 1Hebr 1jZzzz 8Hebr rZzzz 4Hebr
  6Zzzz bArab 5Zyyy 1Arab 6Zyyy 1Arab eZyyy 1Arab 3Zyyy 1Arab wZyyy 1Arab aZinh bArab qZinh
  1Arab 30Zyyy 1Arab ySyrc eZzzz 1Syrc 1oZzzz 2Syrc 3Arab 1cThaa 1eZzzz eNkoo 1nZzzz 2Nkoo
  3Samr 1aZzzz 2Samr fZzzz 1Mand sZzzz 2Mand 1Zzzz 1Syrc bZzzz 5Arab vZzzz 1Arab 2Zzzz 5Arab
  23Zyyy 1Arab tDeva 29Zinh 4Deva fZyyy 2Deva qBeng 4Zzzz 1Beng 8Zzzz 2Beng 2Zzzz 2Beng
  mZzzz 1Beng 7Zzzz 1Beng 1Zzzz 3Beng 4Zzzz 2Beng 9Zzzz 2Beng 2Zzzz 2Beng 4Zzzz 8Beng 1Zzzz
  4Beng 2Zzzz 1Beng 5Zzzz 2Beng pZzzz 2Guru 3Zzzz 1Guru 6Zzzz 4Guru 2Zzzz 2Guru mZzzz 1Guru
  7Zzzz 1Guru 2Zzzz 1Guru 2Zzzz 1Guru 2Zzzz 2Guru 1Zzzz 1Guru 5Zzzz 4Guru 2Zzzz 2Guru 3Zzzz
  3Guru 1Zzzz 7Guru 4Zzzz 1Guru 1Zzzz 7Guru hZzzz aGujr 3Zzzz 1Gujr 9Zzzz 1Gujr 3Zzzz 1Gujr
  mZzzz 1Gujr 7Zzzz 1Gujr 2Zzzz 1Gujr 5Zzzz 2Gujr aZzzz 1Gujr 3Zzzz 1Gujr 3Zzzz 2Gujr 1Zzzz
  fGujr 4Zzzz 2Gujr cZzzz 7Gujr 7Zzzz 1Orya 3Zzzz 1Orya 8Zzzz 2Orya 2Zzzz 2Orya mZzzz 1Orya
  7Zzzz 1Orya 2Zzzz 1Orya 5Zzzz 2Orya 9Zzzz 2Orya 2Zzzz 2Orya 3Zzzz 7Orya 3Zzzz 4Orya 2Zzzz
  1Orya 5Zzzz 2Orya iZzzz aTaml 2Zzzz 1Taml 6Zzzz 3Taml 3Zzzz 1Taml 4Zzzz 3Taml 2Zzzz 1Taml
  1Zzzz 1Taml 2Zzzz 3Taml 2Zzzz 3Taml 3Zzzz 3Taml cZzzz 4Taml 5Zzzz 3Taml 3Zzzz 1Taml 4Zzzz
  2Taml 1Zzzz 6Taml 1Zzzz eTaml lZzzz 5Telu dZzzz 1Telu 3Zzzz 1Telu nZzzz 1Telu gZzzz 2Telu
  9Zzzz 1Telu 3Zzzz 1Telu 4Zzzz 7Telu 2Zzzz 1Telu 3Zzzz 2Telu 1Zzzz 2Telu 4Zzzz 2Telu aZzzz
  7Telu 9Knda dZzzz 1Knda 3Zzzz 1Knda nZzzz 1Knda aZzzz 1Knda 5Zzzz 2Knda 9Zzzz 1Knda 3Zzzz
  1Knda 4Zzzz 7Knda 2Zzzz 6Knda 2Zzzz 1Knda 4Zzzz 2Knda aZzzz 1Knda 3Zzzz cMlym dZzzz 1Mlym
  3Zzzz 1Mlym 1fZzzz 1Mlym 3Zzzz 1Mlym 6Zzzz 4Mlym gZzzz 2Mlym qZzzz 1Sinh 3Zzzz 1Sinh iZzzz
  3Sinh oZzzz 1Sinh 9Zzzz 1Sinh 1Zzzz 2Sinh 7Zzzz 3Sinh 1Zzzz 4Sinh 6Zzzz 1Sinh 1Zzzz 1Sinh
  8Zzzz 6Sinh aZzzz 2Sinh 3Zzzz cThai 1mZzzz 4Zyyy 1Thai sZzzz 11Laoo 2Zzzz 1Laoo 1Zzzz
  1Laoo 5Zzzz 1Laoo oZzzz 1Laoo 1Zzzz 1Laoo nZzzz 2Laoo 5Zzzz 1Laoo 1Zzzz 1Laoo 7Zzzz 1Laoo
  aZzzz 2Laoo 4Zzzz wTibt 20Zzzz 1Tibt 10Zzzz 4Tibt 13Zzzz 1Tibt 10Zzzz 1Tibt fZzzz 1Tibt
  7Zyyy 4Tibt 2Zzzz 11Mymr 4gGeor 12Zzzz 1Geor 1Zzzz 5Geor 1Zzzz 2Geor 17Zyyy 1Geor 4Hang
  74Ethi 21Zzzz 1Ethi 4Zzzz 2Ethi 7Zzzz 1Ethi 1Zzzz 1Ethi 4Zzzz 2Ethi 15Zzzz 1Ethi 4Zzzz
  2Ethi xZzzz 1Ethi 4Zzzz 2Ethi 7Zzzz 1Ethi 1Zzzz 1Ethi 4Zzzz 2Ethi fZzzz 1Ethi 1lZzzz 1Ethi
  4Zzzz 2Ethi 1vZzzz 2Ethi wZzzz 3Ethi qZzzz 6Cher 2eZzzz 2Cher 6Zzzz 2Cans hsOgam tZzzz
  3Runr 23Zyyy 3Runr bZzzz 7Tglg mZzzz 9Tglg 1Hano lZyyy 2Zzzz 9Buhd kZzzz cTagb dZzzz 1Tagb
  3Zzzz 1Tagb 2Zzzz cKhmr 2mZzzz 2Khmr aZzzz 6Khmr aZzzz 6Mong 2Zyyy 2Mong 1Zyyy 1Mong kZzzz
  6Mong 2hZzzz 7Mong 17Zzzz 5Cans 1yZzzz aLimb vZzzz 1Limb cZzzz 4Limb cZzzz 4Limb 1Zzzz
  3Limb cTale uZzzz 2Tale 5Zzzz bTalu 18Zzzz 4Talu qZzzz 6Talu bZzzz 3Talu 2Khmr wBugi sZzzz
  2Bugi 2Lana 1rZzzz 1Lana tZzzz 2Lana bZzzz 6Lana aZzzz 6Lana eZzzz 2Zinh vZzzz 1dBali
  25Zzzz 1Bali 1eSund 1sBatk 1gZzzz 8Batk 4Lepc 1kZzzz 3Lepc fZzzz 3Lepc 3Olck 1cCyrl bZzzz
  5Geor 17Zzzz 2Geor 3Sund 8Zzzz 8Zinh 3Zyyy 1Zinh dZyyy 1Zinh 7Zyyy 4Zinh 1Zyyy 6Zinh 1Zyyy
  3Zinh 2Zyyy 1Zzzz 5Latn 12Grek 5Cyrl 1Latn 1dGrek 5Latn 4Grek 5Latn dCyrl 1Latn 1yGrek
  1Zinh 1sLatn 74Grek mZzzz 2Grek 6Zzzz 2Grek 12Zzzz 2Grek 6Zzzz 2Grek 8Zzzz 1Grek 1Zzzz
  1Grek 1Zzzz 1Grek 1Zzzz 1Grek vZzzz 2Grek 1hZzzz 1Grek fZzzz 1Grek eZzzz 2Grek 6Zzzz 1Grek
  jZzzz 2Grek 3Zzzz 1Grek 9Zzzz 1Zyyy cZinh 2Zyyy 2fZzzz 1Zyyy bLatn 1Zzzz 2Zyyy bLatn 1Zyyy
  fZzzz 1Latn dZzzz 3Zyyy xZzzz fZinh xZzzz fZyyy 12Grek 1Zyyy 3Latn 2Zyyy 6Latn 1Zyyy rLatn
  1Zyyy hLatn 15Zyyy 3Zzzz 4Zyyy iiZzzz mZyyy bZzzz lZyyy psBrai 74Zyyy hgZzzz 2Zyyy wZzzz
  1Zyyy 2xGlag 2oLatn wCopt 38Zzzz 5Copt 7Geor 12Zzzz 1Geor 1Zzzz 5Geor 1Zzzz 2Tfng 1kZzzz
  7Tfng 2Zzzz eTfng 1Ethi nZzzz 9Ethi 7Zzzz 1Ethi 7Zzzz 1Ethi 7Zzzz 1Ethi 7Zzzz 1Ethi 7Zzzz
  1Ethi 7Zzzz 1Ethi 7Zzzz 1Ethi 7Zzzz 1Cyrl wZyyy 2mZzzz yHani qZzzz 1Hani 2hZzzz cHani
  5yZzzz qZyyy lHani 1Zyyy 1Hani 1Zyyy pHani 9Zinh 4Hang 2Zyyy 8Hani 4Zyyy 4Zzzz 1Hira
  2eZzzz 2Zinh 2Zyyy 2Hira 3Zyyy 1Kana 2iZyyy 2Kana 3Zzzz 5Bopo 17Zzzz 1Hang 2mZzzz 1Zyyy
  gBopo wZyyy 12Zzzz 9Zyyy 1Kana gHang vZzzz 1Zyyy 1sHang vZyyy 29Kana 1bZyyy 1Kana 2gZyyy
  4oHani 534Zyyy 1sHani g74Yiii wdZzzz 3Yiii 1jZzzz 9Lisu 1cVaii 8cZzzz kCyrl 2oBamu 2gZzzz
  8Zyyy yLatn 2uZyyy 3Latn 1vZzzz 2Latn 2Zzzz 1Latn 1Zzzz 1Latn 8Zzzz lLatn eSylo 19Zzzz
  3Zyyy aZzzz 6Phag 1kZzzz 8Saur 1yZzzz 8Saur cZzzz 6Deva wKali 1aZyyy 1Kali 1Rjng 10Zzzz
  bRjng 1Hang tZzzz 3Java 26Zzzz 1Zyyy 1Java aZzzz 4Java 2Mymr vZzzz 1Cham 1jZzzz 9Cham
  eZzzz 2Cham aZzzz 2Cham 4Mymr wTavt 1vZzzz oTavt 5Mtei nZzzz aEthi 6Zzzz 2Ethi 6Zzzz 2Ethi
  6Zzzz 9Ethi 7Zzzz 1Ethi 7Zzzz 1Latn 17Zyyy 1Latn 9Grek 1Latn 4Zyyy 2Zzzz 4Cher 28Mtei
  1aZzzz 2Mtei aZzzz 6Hang 8mcZzzz cHang nZzzz 4Hang 1dZzzz 6isHani a6Zzzz 2Hani 2yZzzz
  12Latn 7Zzzz cArmn 5Zzzz 5Hebr qZzzz 1Hebr 5Zzzz 1Hebr 1Zzzz 1Hebr 2Zzzz 1Hebr 2Zzzz 1Hebr
  aArab 37Zzzz gArab a3Zyyy 2Arab 28Zzzz 2Arab 1iZzzz 7Arab 1Zzzz wArab gZinh gZyyy aZzzz
  6Zinh eCyrl 2Zyyy zZzzz 1Zyyy jZzzz 1Zyyy 4Zzzz 4Arab 5Zzzz 1Arab 3rZzzz 2Zyyy 1Zzzz 1Zyyy
  wLatn qZyyy 6Latn qZyyy bKana aZyyy 1Kana 19Zyyy 2Hang vZzzz 3Hang 6Zzzz 2Hang 6Zzzz 2Hang
  6Zzzz 2Hang 3Zzzz 3Zyyy 7Zzzz 1Zyyy 7Zzzz aZyyy 5Zzzz 2Linb cZzzz 1Linb qZzzz 1Linb jZzzz
  1Linb 2Zzzz 1Linb fZzzz 2Linb eZzzz yLinb 3fZzzz 5Zyyy 3Zzzz 4Zyyy 19Zzzz 3Zyyy 9Grek
  27Zzzz 1Zyyy dZzzz 3Grek 1Zzzz 1bZyyy 19Zinh 1Zzzz 3mLyci tZzzz 3Cari 1dZzzz fZinh 1Zyyy
  rZzzz 4Ital 10Zzzz 9Ital 3Goth rZzzz 5Perm 17Zzzz 5Ugar uZzzz 1Ugar 1Xpeo 10Zzzz 4Xpeo
  eZzzz 16Dsrt 28Shaw 1cOsma uZzzz 2Osma aZzzz 6Osge 10Zzzz 4Osge 10Zzzz 4Elba 14Zzzz 8Aghb
  1gZzzz bAghb 1Vith bZzzz 1Vith fZzzz 1Vith 7Zzzz 1Vith 2Zzzz 1Vith bZzzz 1Vith fZzzz 1Vith
  7Zzzz 1Vith 2Zzzz 3Todr 1gZzzz cLina 8nZzzz 9Lina mZzzz aLina 8Zzzz oLatn 6Zzzz 1Latn
  16Zzzz 1Latn 9Zzzz 1xCprt 6Zzzz 2Cprt 1Zzzz 1Cprt 18Zzzz 1Cprt 2Zzzz 3Cprt 1Zzzz 2Cprt
  1Armi mZzzz 1Armi 9Palm wNbat vZzzz 8Nbat 9Zzzz 1cHatr jZzzz 1Hatr 2Zzzz 5Hatr 5Phnx sZzzz
  3Phnx 1Lydi qZzzz 5Lydi 1Zzzz 1sMero wMerc oZzzz 4Merc kZzzz 2Merc 1aKhar 4Zzzz 1Khar
  2Zzzz 5Khar 8Zzzz 1Khar 3Zzzz 1Khar tZzzz 2Khar 3Zzzz 4Khar aZzzz 7Khar 9Zzzz 7Sarb wNarb
  wZzzz wMani 13Zzzz 4Mani cZzzz 9Avst 1iZzzz 3Avst 7Prti mZzzz 2Prti 8Phli jZzzz 5Phli
  8Phlp iZzzz 7Phlp 4Zzzz cPhlp 7Zzzz 28Orkh 21Zzzz 1jHung 1fZzzz dHung 1fZzzz 7Hung 6Rohg
  14Zzzz 8Rohg aZzzz 6Gara 12Zzzz 3Gara tZzzz 8Gara 2Zzzz 5sArab vZzzz 1Yezi 16Zzzz 1Yezi
  3Zzzz 2Yezi 2Zzzz gArab 3Zzzz 1jArab 4Sogo 14Zzzz 8Sogd 16Zzzz mOugr qZzzz 12Chrs sZzzz
  kElym nZzzz 9Brah 26Zzzz 4Brah 10Zzzz 9Brah 1Kthi 1vZzzz aKthi 1Zzzz 2Sora pZzzz 7Sora
  aZzzz 6Cakm 1hZzzz 1Cakm iZzzz 8Mahj 13Zzzz 9Shrd 2oZzzz 1Sinh kZzzz bKhoj iZzzz 1Khoj
  1bZzzz 1qMult 7Zzzz 1Mult 1Zzzz 1Mult 4Zzzz 1Mult fZzzz 1Mult bZzzz 6Sind 1nZzzz 5Sind
  aZzzz 6Gran 4Zzzz 1Gran 8Zzzz 2Gran 2Zzzz 2Gran mZzzz 1Gran 7Zzzz 1Gran 2Zzzz 1Gran 5Zzzz
  1Zinh 1Gran 9Zzzz 2Gran 2Zzzz 2Gran 3Zzzz 2Gran 1Zzzz 6Gran 1Zzzz 5Gran 7Zzzz 2Gran 7Zzzz
  3Gran 5Zzzz bTutg aZzzz 1Tutg 1Zzzz 2Tutg 1Zzzz 1Tutg 12Zzzz 1Tutg aZzzz 1Tutg 1Zzzz 2Tutg
  1Zzzz 1Tutg 4Zzzz 1Tutg aZzzz 1Tutg 2Zzzz 8Tutg 2Zzzz tNewa 2kZzzz 1Newa 5Zzzz uTirh
  20Zzzz 8Tirh aZzzz 4mSidd 1iZzzz 2Sidd 12Zzzz yModi 1xZzzz bModi aZzzz 6Mong dZzzz jTakr
  1mZzzz 6Takr aZzzz 6Mymr kZzzz sAhom rZzzz 2Ahom fZzzz 4Ahom nZzzz 55Dogr 1oZzzz 2sWara
  2bZzzz cWara 1Diak 7Zzzz 2Diak 1Zzzz 2Diak 8Zzzz 1Diak 2Zzzz 1Diak uZzzz 1Diak 2Zzzz 2Diak
  cZzzz 9Diak aZzzz 1yNand 8Zzzz 2Nand 1aZzzz 2Nand bZzzz rZanb 20Zzzz 8Soyo 2bZzzz dCans
  gPauc 1lZzzz 7Deva aZzzz 52Sunu yZzzz eSunu aZzzz 6Bhks 9Zzzz 1Bhks 19Zzzz 1Bhks eZzzz
  aBhks tZzzz 3Marc wZzzz 2Marc mZzzz 1Marc eZzzz 21Gonm 7Zzzz 1Gonm 2Zzzz 1Gonm 18Zzzz
  3Gonm 1Zzzz 1Gonm 2Zzzz 1Gonm 9Zzzz 8Gonm aZzzz 6Gong 6Zzzz 1Gong 2Zzzz 1Gong 11Zzzz 1Gong
  2Zzzz 1Gong 6Zzzz 7Gong aZzzz 8mMaka pZzzz 7Kawi hZzzz 1Kawi 15Zzzz 3Kawi tZzzz 2dLisu
  1Zzzz fTaml 1eZzzz dTaml 1Xsux pmZzzz 2uXsux 33Zzzz 1Xsux 5Zzzz bXsux 5gZzzz 218Cpmn
  2rZzzz dEgyp uuZzzz aEgyp 32zZzzz 5Hluw g7Zzzz 5a1Gukh 1mZzzz 1c6Bamu ftZzzz 7Mroo vZzzz
  1Mroo aZzzz 4Mroo 2Tnsa 27Zzzz 1Tnsa aZzzz 6Bass uZzzz 2Bass 6Zzzz aHmng 1yZzzz aHmng
  aZzzz 1Hmng 7Zzzz 1Hmng lZzzz 5Hmng jZzzz c0Krai 1mZzzz 5iMedf 2jZzzz 2tPlrd 23Zzzz 4Plrd
  1lZzzz 7Plrd hZzzz 1sTang 1Nshu 1Hani 2Kits 1Zzzz bHani 2Zzzz eTang 4qgZzzz 8Tang lcKits
  d2Zzzz 15Kits 1Tang 9Zzzz 6w7Kana 4Zzzz 1Kana 7Zzzz 1Kana 2Zzzz 1Kana 1Hira 7zKana 3Zzzz
  fHira 1Zzzz tHira 3Zzzz 2Kana 1Zzzz eKana 4Zzzz 8Nshu b0Zzzz 1s4Dupl 2zZzzz 5Dupl dZzzz
  3Dupl 9Zzzz 7Dupl aZzzz 2Dupl 4Zyyy 4Zzzz 318Zyyy 6yZzzz 6Zyyy c4Zzzz 24Zinh 1aZzzz 2Zinh
  nZzzz 9Zyyy 38Zzzz 1oZyyy 6uZzzz aZyyy 13Zzzz 2Zyyy 1qZinh 3Zyyy hZinh 8Zyyy 2Zinh 7Zyyy
  uZinh 4Zyyy 1pZzzz lGrek 1yZzzz 3eZyyy kZzzz cZyyy kZzzz cZyyy 2fZzzz 9Zyyy pZzzz 3rZyyy
  2dZzzz 1Zyyy 1zZzzz 1Zyyy 2Zzzz 2Zyyy 1Zzzz 2Zyyy 2Zzzz 2Zyyy 4Zzzz 1Zyyy cZzzz 1Zyyy
  1Zzzz 1Zyyy 7Zzzz 1Zyyy 1tZzzz 1Zyyy 4Zzzz 2Zyyy 8Zzzz 1Zyyy 7Zzzz 1Zyyy sZzzz 1Zyyy 4Zzzz
  1Zyyy 5Zzzz 1Zyyy 1Zzzz 3Zyyy 7Zzzz 1Zyyy 9gZzzz 2Zyyy 84Zzzz 2Zyyy 1eSgnw i4Zzzz fSgnw
  5Zzzz 1Sgnw fZzzz uoLatn vZzzz 6Latn 6Zzzz 5xGlag 7Zzzz 1Glag hZzzz 2Glag 7Zzzz 1Glag
  2Zzzz 1Glag 5Zzzz 5Cyrl 1qZzzz xCyrl 1Zzzz 34Hmnp 19Zzzz 3Hmnp eZzzz 2Hmnp aZzzz 4Hmnp
  2Zzzz 8wToto vZzzz hWcho 1mZzzz 5Wcho 1Zzzz cwNagm 16Zzzz 5yOnao 17Zzzz 4Onao 1Zzzz dcEthi
  7Zzzz 1Ethi 4Zzzz 1Ethi 2Zzzz 1Ethi fZzzz 1Mend 5hZzzz 2Mend gZzzz 15Adlm 24Zzzz 4Adlm
  aZzzz 4Adlm 2Zzzz ltZyyy 1wZzzz 24Zyyy 1pZzzz 5eArab 4Zzzz 1Arab rZzzz 1Arab 2Zzzz 1Arab
  1Zzzz 2Arab 1Zzzz 1Arab aZzzz 1Arab 4Zzzz 1Arab 1Zzzz 1Arab 1Zzzz 6Arab 1Zzzz 4Arab 1Zzzz
  1Arab 1Zzzz 1Arab 1Zzzz 1Arab 3Zzzz 1Arab 2Zzzz 1Arab 1Zzzz 2Arab 1Zzzz 1Arab 1Zzzz 1Arab
  1Zzzz 1Arab 1Zzzz 1Arab 1Zzzz 1Arab 2Zzzz 1Arab 1Zzzz 2Arab 4Zzzz 1Arab 7Zzzz 1Arab 4Zzzz
  1Arab 4Zzzz 1Arab 1Zzzz 1Arab aZzzz 1Arab hZzzz 5Arab 3Zzzz 1Arab 5Zzzz 1Arab hZzzz 1gArab
  2Zzzz 7iZyyy 18Zzzz 4Zyyy 2sZzzz cZyyy fZzzz 2Zyyy fZzzz 1Zyyy fZzzz 1Zyyy 11Zzzz aZyyy
  4uZzzz 1kZyyy qHira 1Zyyy 2Zzzz dZyyy 18Zzzz 4Zyyy 9Zzzz 7Zyyy 2Zzzz eZyyy 6Zzzz 4aZyyy
  rcZzzz 4Zyyy hZzzz 3Zyyy dZzzz 3Zyyy 3bZzzz 4Zyyy 2nZzzz 6Zyyy cZzzz 4Zyyy 1Zzzz fZyyy
  cZzzz 4Zyyy 1kZzzz 8Zyyy aZzzz 6Zyyy 14Zzzz 8Zyyy uZzzz 2Zyyy cZzzz 4Zyyy 2Zzzz 1qZyyy
  9gZzzz cZyyy eZzzz 2Zyyy dZzzz 3Zyyy aZzzz 5Zyyy 1kZzzz 7Zyyy fZzzz 2Zyyy bZzzz 6Zyyy
  9Zzzz 7Zyyy 43Zzzz 1Zyyy 2uZzzz smHani wyoZzzz wHani 37eZzzz 6Hani 66Zzzz 2Hani 4g2Zzzz
  eHani 5rlZzzz fHani haZzzz 1wiHani f2Zzzz 15uHani 3t7Zzzz 5Hani 38gZzzz f975Zyyy 1Zzzz
  uZyyy 2oZzzz 3kZinh 6oZzzz"

def scriptNames : List (String × List String) := [
  ("Adlm", ["Adlam"]), ("Ahom", []), ("Hluw", ["Anatolian_Hieroglyphs"]), ("Arab", ["Arabic"]),
  ("Armn", ["Armenian"]), ("Avst", ["Avestan"]), ("Bali", ["Balinese"]), ("Bamu", ["Bamum"]),
  ("Bass", ["Bassa_Vah"]), ("Batk", ["Batak"]), ("Beng", ["Bengali"]), ("Bhks", ["Bhaiksuki"]),
  ("Bopo", ["Bopomofo"]), ("Brah", ["Brahmi"]), ("Brai", ["Braille"]), ("Bugi", ["Buginese"]),
  ("Buhd", ["Buhid"]), ("Cans", ["Canadian_Aboriginal"]), ("Cari", ["Carian"]),
  ("Aghb", ["Caucasian_Albanian"]), ("Cakm", ["Chakma"]), ("Cham", []), ("Cher", ["Cherokee"]),
  ("Chrs", ["Chorasmian"]), ("Zyyy", ["Common"]), ("Copt", ["Coptic", "Qaac"]),
  ("Xsux", ["Cuneiform"]), ("Cprt", ["Cypriot"]), ("Cpmn", ["Cypro_Minoan"]),
  ("Cyrl", ["Cyrillic"]), ("Dsrt", ["Deseret"]), ("Deva", ["Devanagari"]),
  ("Diak", ["Dives_Akuru"]), ("Dogr", ["Dogra"]), ("Dupl", ["Duployan"]),
  ("Egyp", ["Egyptian_Hieroglyphs"]), ("Elba", ["Elbasan"]), ("Elym", ["Elymaic"]),
  ("Ethi", ["Ethiopic"]), ("Gara", ["Garay"]), ("Geor", ["Georgian"]), ("Glag", ["Glagolitic"]),
  ("Goth", ["Gothic"]), ("Gran", ["Grantha"]), ("Grek", ["Greek"]), ("Gujr", ["Gujarati"]),
  ("Gong", ["Gunjala_Gondi"]), ("Guru", ["Gurmukhi"]), ("Gukh", ["Gurung_Khema"]),
  ("Hani", ["Han"]), ("Hang", ["Hangul"]), ("Rohg", ["Hanifi_Rohingya"]), ("Hano", ["Hanunoo"]),
  ("Hatr", ["Hatran"]), ("Hebr", ["Hebrew"]), ("Hira", ["Hiragana"]),
  ("Armi", ["Imperial_Aramaic"]), ("Zinh", ["Inherited", "Qaai"]),
  ("Phli", ["Inscriptional_Pahlavi"]), ("Prti", ["Inscriptional_Parthian"]),
  ("Java", ["Javanese"]), ("Kthi", ["Kaithi"]), ("Knda", ["Kannada"]), ("Kana", ["Katakana"]),
  ("Kawi", []), ("Kali", ["Kayah_Li"]), ("Khar", ["Kharoshthi"]),
  ("Kits", ["Khitan_Small_Script"]), ("Khmr", ["Khmer"]), ("Khoj", ["Khojki"]),
  ("Sind", ["Khudawadi"]), ("Krai", ["Kirat_Rai"]), ("Laoo", ["Lao"]), ("Latn", ["Latin"]),
  ("Lepc", ["Lepcha"]), ("Limb", ["Limbu"]), ("Lina", ["Linear_A"]), ("Linb", ["Linear_B"]),
  ("Lisu", []), ("Lyci", ["Lycian"]), ("Lydi", ["Lydian"]), ("Mahj", ["Mahajani"]),
  ("Maka", ["Makasar"]), ("Mlym", ["Malayalam"]), ("Mand", ["Mandaic"]),
  ("Mani", ["Manichaean"]), ("Marc", ["Marchen"]), ("Gonm", ["Masaram_Gondi"]),
  ("Medf", ["Medefaidrin"]), ("Mtei", ["Meetei_Mayek"]), ("Mend", ["Mende_Kikakui"]),
  ("Merc", ["Meroitic_Cursive"]), ("Mero", ["Meroitic_Hieroglyphs"]), ("Plrd", ["Miao"]),
  ("Modi", []), ("Mong", ["Mongolian"]), ("Mroo", ["Mro"]), ("Mult", ["Multani"]),
  ("Mymr", ["Myanmar"]), ("Nbat", ["Nabataean"]), ("Nagm", ["Nag_Mundari"]),
  ("Nand", ["Nandinagari"]), ("Talu", ["New_Tai_Lue"]), ("Newa", []), ("Nkoo", ["Nko"]),
  ("Nshu", ["Nushu"]), ("Hmnp", ["Nyiakeng_Puachue_Hmong"]), ("Ogam", ["Ogham"]),
  ("Olck", ["Ol_Chiki"]), ("Onao", ["Ol_Onal"]), ("Hung", ["Old_Hungarian"]),
  ("Ital", ["Old_Italic"]), ("Narb", ["Old_North_Arabian"]), ("Perm", ["Old_Permic"]),
  ("Xpeo", ["Old_Persian"]), ("Sogo", ["Old_Sogdian"]), ("Sarb", ["Old_South_Arabian"]),
  ("Orkh", ["Old_Turkic"]), ("Ougr", ["Old_Uyghur"]), ("Orya", ["Oriya"]), ("Osge", ["Osage"]),
  ("Osma", ["Osmanya"]), ("Hmng", ["Pahawh_Hmong"]), ("Palm", ["Palmyrene"]),
  ("Pauc", ["Pau_Cin_Hau"]), ("Phag", ["Phags_Pa"]), ("Phnx", ["Phoenician"]),
  ("Phlp", ["Psalter_Pahlavi"]), ("Rjng", ["Rejang"]), ("Runr", ["Runic"]),
  ("Samr", ["Samaritan"]), ("Saur", ["Saurashtra"]), ("Shrd", ["Sharada"]),
  ("Shaw", ["Shavian"]), ("Sidd", ["Siddham"]), ("Sgnw", ["SignWriting"]), ("Sinh", ["Sinhala"]),
  ("Sogd", ["Sogdian"]), ("Sora", ["Sora_Sompeng"]), ("Soyo", ["Soyombo"]),
  ("Sund", ["Sundanese"]), ("Sunu", ["Sunuwar"]), ("Sylo", ["Syloti_Nagri"]),
  ("Syrc", ["Syriac"]), ("Tglg", ["Tagalog"]), ("Tagb", ["Tagbanwa"]), ("Tale", ["Tai_Le"]),
  ("Lana", ["Tai_Tham"]), ("Tavt", ["Tai_Viet"]), ("Takr", ["Takri"]), ("Taml", ["Tamil"]),
  ("Tnsa", ["Tangsa"]), ("Tang", ["Tangut"]), ("Telu", ["Telugu"]), ("Thaa", ["Thaana"]),
  ("Thai", []), ("Tibt", ["Tibetan"]), ("Tfng", ["Tifinagh"]), ("Tirh", ["Tirhuta"]),
  ("Todr", ["Todhri"]), ("Toto", []), ("Tutg", ["Tulu_Tigalari"]), ("Ugar", ["Ugaritic"]),
  ("Vaii", ["Vai"]), ("Vith", ["Vithkuqi"]), ("Wcho", ["Wancho"]), ("Wara", ["Warang_Citi"]),
  ("Yezi", ["Yezidi"]), ("Yiii", ["Yi"]), ("Zanb", ["Zanabazar_Square"])]

def scriptExtensionChanges : List (String × String) := [
  ("Adlm", "17j 1 w 1 55a 1 2r5 1"),
  ("Arab", "170 1 e 1 3 1 w 1 a b q 1 53y 1 2r5 1 14vw 2 140 s"),
  ("Armn", "lk 1"),
  ("Avst", "53 1 8zc 2"),
  ("Beng", "jg 1 1as 2 h 2 3u2 1 1 1 2 2 1 1 8 1 8 1 2 1 4 1 2 3 rnd 1"),
  ("Bopo", "jr 1 1 3 d 1 8x3 3 4 a 1 d a 4 2 1 6 1 5f 1 14jt 2 7u 5"),
  ("Bugi", "xjj 1"),
  ("Buhd", "4l1 2"),
  ("Cari", "53 1 68y 1 2 1 2qb 1"),
  ("Aghb", "lg 1 18 1 18 1"),
  ("Cakm", "1ye a 18w a"),
  ("Cher", "lc 3 1 1 6 2 m 2 b 2"),
  ("Zyyy", "53 1 ec 1 a 1 1 3 1 1 9 1 1 1 4a 1 if 1 e 1 3 1 w 1 mb 2 1hx 1 167 3 1z 2 5n 2 1 1 y5 1 d
    1 7 4 1 6 1 3 2 1 ms 1 v 1 a 1 2 1 2pl 1 o 2 a 1 4 1 1 1 bw g 1 3 2 1 1 a 1 d g 6 1 1 4 4
    2j 2 3 1 2i 2 43 g w 12 9 1 1c 14 1k 1d f c 1f 1 2g p a 5 2o v mpt 8 88 a 6s 1 4g 1 gha 2
    79 2 7u 5 a 1 19 2 9s 3 4 19 3 9 bl r 10o4 4 4ho i 63i 2"),
  ("Copt", "53 1 g8 1 3 2 1 1 30 2 8f5 1 1614 s"),
  ("Cprt", "1erk 3 4 19 3 9"),
  ("Cpmn", "1erk 2"),
  ("Cyrl", "jg 1 1v 3 1 1 1 1 1 1 2 1 5 1 ab 2 50x 1 37u 1"),
  ("Deva", "jg 1 1as 2 h 2 3u2 13 1 2 s6 1 qpr a"),
  ("Dogr", "1us c vcw a"),
  ("Dupl", "53 1 gf 2 1 1 o 2 8if 1 26oz 4"),
  ("Elba", "53 1 gd 1"),
  ("Ethi", "lq 1"),
  ("Gara", "170 1 e 1 3 1"),
  ("Geor", "53 1 y9 1 29d 1 31a 1 2qe 1"),
  ("Glag", "53 1 gb 1 1 1 am 1 2 1 75 1 29d 1 31a 1 2qw 1 nqj 1"),
  ("Goth", "53 1 gc 2 2 1 14 1"),
  ("Gran", "1u9 2 h 2 hs e 3bw 1 1 2 u 3 3 2 s6 1 1buy 1 2hg 2 1 1"),
  ("Grek", "53 1 g8 2 2 1 1 1 1 1 a 1 1a 1 2 1 1a 1 56z 2 ij 1"),
  ("Gujr", "1u9 2 h 2 vd6 a"),
  ("Gong", "53 1 1po 2"),
  ("Guru", "1u9 2 h 2 vd6 a"),
  ("Gukh", "1ut 1"),
  ("Hani", "53 1 9bs g 1 3 2 1 1 a 1 d a 4 2 1 6 1 4 4 57 1 44 g w 12 9 1 1c 14 1k 1d f c 1f 1 2g p a
    5 2o v mpt 8 h8d 2 7u 5 15ve i 63i 2"),
  ("Hang", "9hd 3 4 a 1 d g 1 6 1 5f 1 14jt 2 7u 5"),
  ("Rohg", "170 1 e 1 3 1 w 1 43 1"),
  ("Hano", "4l1 2"),
  ("Hebr", "lj 2"),
  ("Hira", "9hd 3 4 a 1 d g 6 1 1 4 2 2j 4 3 1 2i 2 14js 2 7u 5 a 1 19 2"),
  ("Zinh", "lc f 1 2 1 1 c 1 2 3 7 2 1 2 g 1 2 1 i 1 5 1 4 d 7p 2 ck b q 1 kg 2 3ul 3 1 d 1 7 4 1 6 1
    3 2 5i 2 1i 1 1 1 l1 1 309 4 2z 2 15j9 1 38a 1"),
  ("Java", "xjj 1"),
  ("Kthi", "1uu a 79d 1 o3i a"),
  ("Knda", "1u9 2 h 2 3u2 1 1 2 6 1 n 1 1 1 ri3 6"),
  ("Kana", "lh 1 t 1 8v1 3 4 a 1 d g 6 1 1 4 2 2j 4 3 1 2i 2 14js 2 7u 5 a 1 19 2"),
  ("Kali", "xf2 1"),
  ("Khoj", "25i a v28 a"),
  ("Sind", "1us 2 vd6 a"),
  ("Latn", "53 1 ec 1 a 1 1 3 1 1 9 1 1 1 12 f 1 2 1 1 c 1 2 3 7 2 1 2 12 1 5 1 4 d 7p 2 y2 2 1ig 1
    2kc 1 fq 1 5c 1 2li 1 nvs 8 fa 1"),
  ("Limb", "1ut 1"),
  ("Lina", "1err 19"),
  ("Linb", "1erk 3 4 19 3 9"),
  ("Lisu", "jg 1 g 1 8xo 2"),
  ("Lyci", "6e2 1"),
  ("Lydi", "53 1 8zd 1"),
  ("Mahj", "53 1 1po c vcw a"),
  ("Mlym", "1u9 2 h 2 3uc 1 n 1 ri5 3"),
  ("Mand", "18g 1"),
  ("Mani", "18g 1"),
  ("Gonm", "1us 2"),
  ("Mero", "6e5 1"),
  ("Modi", "x80 a"),
  ("Mong", "4qq 2 1 1 1m1 1 34h 2 5 4"),
  ("Mult", "21y a"),
  ("Mymr", "xf2 1"),
  ("Nand", "1us 2 ow a 35l 1 8 1 7 1 rhx 6"),
  ("Nkoo", "170 1 e 1 3 1 1cta 2"),
  ("Onao", "1us 2"),
  ("Hung", "6e2 1 2 1 2qb 1 f 1"),
  ("Perm", "53 1 g8 1 5 3 a 1 a7 1"),
  ("Orkh", "6e2 1 2qd 1"),
  ("Ougr", "18g 1 1fht 1"),
  ("Orya", "1u9 2 h 2 3uc 1 n 1"),
  ("Osge", "ld 1 2 1 6 1 24 1"),
  ("Phag", "4qq 2 1 1 1m1 1 34i 1"),
  ("Phlp", "18g 1"),
  ("Runr", "4iz 3"),
  ("Samr", "94h 1"),
  ("Shrd", "1u9 1 3ut 1 1 1 2 2 2 1 rin 6 2 1"),
  ("Shaw", "53 1"),
  ("Sinh", "1us 2 3v0 1"),
  ("Sogd", "18g 1"),
  ("Sunu", "lc 2 1 1 9 1 2 1 s 1 3 1"),
  ("Sylo", "1us 2 3k a"),
  ("Syrc", "lf 2 2 2 1 1 l 1 2 3 7 2 1 1 kb 1 e 2 2 1 w 1 a b q 1 4nb 1 1 1"),
  ("Tglg", "4l1 2"),
  ("Tagb", "4l1 2"),
  ("Tale", "lc 2 5 2 3 1 2lv a"),
  ("Takr", "1us 2 vd6 a"),
  ("Taml", "1u9 2 h 2 3uc 1 ro8 1 ky5 1 1 1 1j 2"),
  ("Tang", "9gw g dr 1"),
  ("Telu", "1u9 2 h 2 3uc 1 n 1"),
  ("Thaa", "170 1 e 2 2 1 1s a 1cw8 1 a 1"),
  ("Thai", "jg 1 q 1 17 1 19 1"),
  ("Tibt", "9hk 4"),
  ("Tfng", "le 1 1 1 2 1 1 1"),
  ("Tirh", "1u9 2 h 2 3v0 1 ri5 a"),
  ("Todr", "ld 1 2 1 2 1 9 1 1 1 22 1"),
  ("Toto", "jg 1"),
  ("Tutg", "2jq a 35u 1 1 1 ri3 6 57 1"),
  ("Yezi", "170 1 e 1 3 1 1s a"),
  ("Yiii", "9hd 2 5 a 2 8 67 1 14rp 5")]

end Umbra.Unicode
