/-!
# Scripts, as runs

* The Script of every code point from U+0000 up: the length of each run, in hexadecimal, and then
  the four-letter code of its script.
* `scriptNames` pairs each code with the long name of the script.
-/

namespace ScreenQuery.Text

/-- Lengths and scripts of the runs of code points with one script. -/
def scriptRuns : String :=
  "41 Zyyy 1a Latn 6 Zyyy 1a Latn 2f Zyyy 1 Latn f Zyyy 1 Latn 5 Zyyy 17 Latn 1 Zyyy 1f Latn 1
  Zyyy 1c1 Latn 27 Zyyy 5 Latn 5 Zyyy 2 Bopo 14 Zyyy 70 Zinh 4 Grek 1 Zyyy 3 Grek 2 Zzzz 4 Grek
  1 Zyyy 1 Grek 4 Zzzz 1 Grek 1 Zyyy 1 Grek 1 Zyyy 3 Grek 1 Zzzz 1 Grek 1 Zzzz 14 Grek 1 Zzzz 3f
  Grek e Copt 10 Grek 85 Cyrl 2 Zinh a9 Cyrl 1 Zzzz 26 Armn 2 Zzzz 32 Armn 2 Zzzz 3 Armn 1 Zzzz
  37 Hebr 8 Zzzz 1b Hebr 4 Zzzz 6 Hebr b Zzzz 5 Arab 1 Zyyy 6 Arab 1 Zyyy e Arab 1 Zyyy 3 Arab 1
  Zyyy 20 Arab 1 Zyyy a Arab b Zinh 1a Arab 1 Zinh 6c Arab 1 Zyyy 22 Arab e Syrc 1 Zzzz 3c Syrc
  2 Zzzz 3 Syrc 30 Arab 32 Thaa e Zzzz 3b Nkoo 2 Zzzz 3 Nkoo 2e Samr 2 Zzzz f Samr 1 Zzzz 1c
  Mand 2 Zzzz 1 Mand 1 Zzzz b Syrc 5 Zzzz 1f Arab 1 Zzzz 2 Arab 6 Zzzz 4a Arab 1 Zyyy 1d Arab 51
  Deva 4 Zinh f Deva 2 Zyyy 1a Deva 4 Beng 1 Zzzz 8 Beng 2 Zzzz 2 Beng 2 Zzzz 16 Beng 1 Zzzz 7
  Beng 1 Zzzz 1 Beng 3 Zzzz 4 Beng 2 Zzzz 9 Beng 2 Zzzz 2 Beng 2 Zzzz 4 Beng 8 Zzzz 1 Beng 4
  Zzzz 2 Beng 1 Zzzz 5 Beng 2 Zzzz 19 Beng 2 Zzzz 3 Guru 1 Zzzz 6 Guru 4 Zzzz 2 Guru 2 Zzzz 16
  Guru 1 Zzzz 7 Guru 1 Zzzz 2 Guru 1 Zzzz 2 Guru 1 Zzzz 2 Guru 2 Zzzz 1 Guru 1 Zzzz 5 Guru 4
  Zzzz 2 Guru 2 Zzzz 3 Guru 3 Zzzz 1 Guru 7 Zzzz 4 Guru 1 Zzzz 1 Guru 7 Zzzz 11 Guru a Zzzz 3
  Gujr 1 Zzzz 9 Gujr 1 Zzzz 3 Gujr 1 Zzzz 16 Gujr 1 Zzzz 7 Gujr 1 Zzzz 2 Gujr 1 Zzzz 5 Gujr 2
  Zzzz a Gujr 1 Zzzz 3 Gujr 1 Zzzz 3 Gujr 2 Zzzz 1 Gujr f Zzzz 4 Gujr 2 Zzzz c Gujr 7 Zzzz 7
  Gujr 1 Zzzz 3 Orya 1 Zzzz 8 Orya 2 Zzzz 2 Orya 2 Zzzz 16 Orya 1 Zzzz 7 Orya 1 Zzzz 2 Orya 1
  Zzzz 5 Orya 2 Zzzz 9 Orya 2 Zzzz 2 Orya 2 Zzzz 3 Orya 7 Zzzz 3 Orya 4 Zzzz 2 Orya 1 Zzzz 5
  Orya 2 Zzzz 12 Orya a Zzzz 2 Taml 1 Zzzz 6 Taml 3 Zzzz 3 Taml 1 Zzzz 4 Taml 3 Zzzz 2 Taml 1
  Zzzz 1 Taml 1 Zzzz 2 Taml 3 Zzzz 2 Taml 3 Zzzz 3 Taml 3 Zzzz c Taml 4 Zzzz 5 Taml 3 Zzzz 3
  Taml 1 Zzzz 4 Taml 2 Zzzz 1 Taml 6 Zzzz 1 Taml e Zzzz 15 Taml 5 Zzzz d Telu 1 Zzzz 3 Telu 1
  Zzzz 17 Telu 1 Zzzz 10 Telu 2 Zzzz 9 Telu 1 Zzzz 3 Telu 1 Zzzz 4 Telu 7 Zzzz 2 Telu 1 Zzzz 3
  Telu 2 Zzzz 1 Telu 2 Zzzz 4 Telu 2 Zzzz a Telu 7 Zzzz 9 Telu d Knda 1 Zzzz 3 Knda 1 Zzzz 17
  Knda 1 Zzzz a Knda 1 Zzzz 5 Knda 2 Zzzz 9 Knda 1 Zzzz 3 Knda 1 Zzzz 4 Knda 7 Zzzz 2 Knda 6
  Zzzz 2 Knda 1 Zzzz 4 Knda 2 Zzzz a Knda 1 Zzzz 3 Knda c Zzzz d Mlym 1 Zzzz 3 Mlym 1 Zzzz 33
  Mlym 1 Zzzz 3 Mlym 1 Zzzz 6 Mlym 4 Zzzz 10 Mlym 2 Zzzz 1a Mlym 1 Zzzz 3 Sinh 1 Zzzz 12 Sinh 3
  Zzzz 18 Sinh 1 Zzzz 9 Sinh 1 Zzzz 1 Sinh 2 Zzzz 7 Sinh 3 Zzzz 1 Sinh 4 Zzzz 6 Sinh 1 Zzzz 1
  Sinh 1 Zzzz 8 Sinh 6 Zzzz a Sinh 2 Zzzz 3 Sinh c Zzzz 3a Thai 4 Zzzz 1 Zyyy 1c Thai 25 Zzzz 2
  Laoo 1 Zzzz 1 Laoo 1 Zzzz 5 Laoo 1 Zzzz 18 Laoo 1 Zzzz 1 Laoo 1 Zzzz 17 Laoo 2 Zzzz 5 Laoo 1
  Zzzz 1 Laoo 1 Zzzz 7 Laoo 1 Zzzz a Laoo 2 Zzzz 4 Laoo 20 Zzzz 48 Tibt 1 Zzzz 24 Tibt 4 Zzzz 27
  Tibt 1 Zzzz 24 Tibt 1 Zzzz f Tibt 1 Zzzz 7 Tibt 4 Zyyy 2 Tibt 25 Zzzz a0 Mymr 26 Geor 1 Zzzz 1
  Geor 5 Zzzz 1 Geor 2 Zzzz 2b Geor 1 Zyyy 4 Geor 100 Hang 49 Ethi 1 Zzzz 4 Ethi 2 Zzzz 7 Ethi 1
  Zzzz 1 Ethi 1 Zzzz 4 Ethi 2 Zzzz 29 Ethi 1 Zzzz 4 Ethi 2 Zzzz 21 Ethi 1 Zzzz 4 Ethi 2 Zzzz 7
  Ethi 1 Zzzz 1 Ethi 1 Zzzz 4 Ethi 2 Zzzz f Ethi 1 Zzzz 39 Ethi 1 Zzzz 4 Ethi 2 Zzzz 43 Ethi 2
  Zzzz 20 Ethi 3 Zzzz 1a Ethi 6 Zzzz 56 Cher 2 Zzzz 6 Cher 2 Zzzz 280 Cans 1d Ogam 3 Zzzz 4b
  Runr 3 Zyyy b Runr 7 Zzzz 16 Tglg 9 Zzzz 1 Tglg 15 Hano 2 Zyyy 9 Zzzz 14 Buhd c Zzzz d Tagb 1
  Zzzz 3 Tagb 1 Zzzz 2 Tagb c Zzzz 5e Khmr 2 Zzzz a Khmr 6 Zzzz a Khmr 6 Zzzz 2 Mong 2 Zyyy 1
  Mong 1 Zyyy 14 Mong 6 Zzzz 59 Mong 7 Zzzz 2b Mong 5 Zzzz 46 Cans a Zzzz 1f Limb 1 Zzzz c Limb
  4 Zzzz c Limb 4 Zzzz 1 Limb 3 Zzzz c Limb 1e Tale 2 Zzzz 5 Tale b Zzzz 2c Talu 4 Zzzz 1a Talu
  6 Zzzz b Talu 3 Zzzz 2 Talu 20 Khmr 1c Bugi 2 Zzzz 2 Bugi 3f Lana 1 Zzzz 1d Lana 2 Zzzz b Lana
  6 Zzzz a Lana 6 Zzzz e Lana 2 Zzzz 1f Zinh 31 Zzzz 4d Bali 3 Zzzz 2f Bali 1 Zzzz 40 Sund 34
  Batk 8 Zzzz 4 Batk 38 Lepc 3 Zzzz f Lepc 3 Zzzz 3 Lepc 30 Olck 9 Cyrl 7 Zzzz 2b Geor 2 Zzzz 3
  Geor 8 Sund 8 Zzzz 3 Zinh 1 Zyyy d Zinh 1 Zyyy 7 Zinh 4 Zyyy 1 Zinh 6 Zyyy 1 Zinh 3 Zyyy 2
  Zinh 1 Zyyy 5 Zzzz 26 Latn 5 Grek 1 Cyrl 31 Latn 5 Grek 4 Latn 5 Grek d Latn 1 Cyrl 46 Latn 1
  Grek 40 Zinh 100 Latn 16 Grek 2 Zzzz 6 Grek 2 Zzzz 26 Grek 2 Zzzz 6 Grek 2 Zzzz 8 Grek 1 Zzzz
  1 Grek 1 Zzzz 1 Grek 1 Zzzz 1 Grek 1 Zzzz 1f Grek 2 Zzzz 35 Grek 1 Zzzz f Grek 1 Zzzz e Grek 2
  Zzzz 6 Grek 1 Zzzz 13 Grek 2 Zzzz 3 Grek 1 Zzzz 9 Grek 1 Zzzz c Zyyy 2 Zinh 57 Zyyy 1 Zzzz b
  Zyyy 1 Latn 2 Zzzz b Zyyy 1 Latn f Zyyy 1 Zzzz d Latn 3 Zzzz 21 Zyyy f Zzzz 21 Zinh f Zzzz 26
  Zyyy 1 Grek 3 Zyyy 2 Latn 6 Zyyy 1 Latn 1b Zyyy 1 Latn 11 Zyyy 29 Latn 3 Zyyy 4 Zzzz 29a Zyyy
  16 Zzzz b Zyyy 15 Zzzz 3a0 Zyyy 100 Brai 274 Zyyy 2 Zzzz 20 Zyyy 1 Zzzz 69 Zyyy 60 Glag 20
  Latn 74 Copt 5 Zzzz 7 Copt 26 Geor 1 Zzzz 1 Geor 5 Zzzz 1 Geor 2 Zzzz 38 Tfng 7 Zzzz 2 Tfng e
  Zzzz 1 Tfng 17 Ethi 9 Zzzz 7 Ethi 1 Zzzz 7 Ethi 1 Zzzz 7 Ethi 1 Zzzz 7 Ethi 1 Zzzz 7 Ethi 1
  Zzzz 7 Ethi 1 Zzzz 7 Ethi 1 Zzzz 7 Ethi 1 Zzzz 20 Cyrl 5e Zyyy 22 Zzzz 1a Hani 1 Zzzz 59 Hani
  c Zzzz d6 Hani 1a Zzzz 15 Zyyy 1 Hani 1 Zyyy 1 Hani 19 Zyyy 9 Hani 4 Zinh 2 Hang 8 Zyyy 4 Hani
  4 Zyyy 1 Zzzz 56 Hira 2 Zzzz 2 Zinh 2 Zyyy 3 Hira 1 Zyyy 5a Kana 2 Zyyy 3 Kana 5 Zzzz 2b Bopo
  1 Zzzz 5e Hang 1 Zzzz 10 Zyyy 20 Bopo 26 Zyyy 9 Zzzz 1 Zyyy 10 Kana 1f Hang 1 Zzzz 40 Zyyy 1f
  Hang 51 Zyyy 2f Kana 1 Zyyy 58 Kana a8 Zyyy 19c0 Hani 40 Zyyy 5200 Hani 48d Yiii 3 Zzzz 37
  Yiii 9 Zzzz 30 Lisu 12c Vaii 14 Zzzz 60 Cyrl 58 Bamu 8 Zzzz 22 Zyyy 66 Latn 3 Zyyy 40 Latn 5
  Zzzz 2 Latn 1 Zzzz 1 Latn 1 Zzzz 5 Latn 18 Zzzz e Latn 2d Sylo 3 Zzzz a Zyyy 6 Zzzz 38 Phag 8
  Zzzz 46 Saur 8 Zzzz c Saur 6 Zzzz 20 Deva 2e Kali 1 Zyyy 1 Kali 24 Rjng b Zzzz 1 Rjng 1d Hang
  3 Zzzz 4e Java 1 Zzzz 1 Zyyy a Java 4 Zzzz 2 Java 1f Mymr 1 Zzzz 37 Cham 9 Zzzz e Cham 2 Zzzz
  a Cham 2 Zzzz 4 Cham 20 Mymr 43 Tavt 18 Zzzz 5 Tavt 17 Mtei a Zzzz 6 Ethi 2 Zzzz 6 Ethi 2 Zzzz
  6 Ethi 9 Zzzz 7 Ethi 1 Zzzz 7 Ethi 1 Zzzz 2b Latn 1 Zyyy 9 Latn 1 Grek 4 Latn 2 Zyyy 4 Zzzz 50
  Cher 2e Mtei 2 Zzzz a Mtei 6 Zzzz 2ba4 Hang c Zzzz 17 Hang 4 Zzzz 31 Hang 2104 Zzzz 16e Hani 2
  Zzzz 6a Hani 26 Zzzz 7 Latn c Zzzz 5 Armn 5 Zzzz 1a Hebr 1 Zzzz 5 Hebr 1 Zzzz 1 Hebr 1 Zzzz 2
  Hebr 1 Zzzz 2 Hebr 1 Zzzz a Hebr 73 Arab 10 Zzzz 16b Arab 2 Zyyy 50 Arab 2 Zzzz 36 Arab 7 Zzzz
  1 Arab 20 Zzzz 10 Arab 10 Zinh a Zyyy 6 Zzzz e Zinh 2 Cyrl 23 Zyyy 1 Zzzz 13 Zyyy 1 Zzzz 4
  Zyyy 4 Zzzz 5 Arab 1 Zzzz 87 Arab 2 Zzzz 1 Zyyy 1 Zzzz 20 Zyyy 1a Latn 6 Zyyy 1a Latn b Zyyy a
  Kana 1 Zyyy 2d Kana 2 Zyyy 1f Hang 3 Zzzz 6 Hang 2 Zzzz 6 Hang 2 Zzzz 6 Hang 2 Zzzz 3 Hang 3
  Zzzz 7 Zyyy 1 Zzzz 7 Zyyy a Zzzz 5 Zyyy 2 Zzzz c Linb 1 Zzzz 1a Linb 1 Zzzz 13 Linb 1 Zzzz 2
  Linb 1 Zzzz f Linb 2 Zzzz e Linb 22 Zzzz 7b Linb 5 Zzzz 3 Zyyy 4 Zzzz 2d Zyyy 3 Zzzz 9 Zyyy 4f
  Grek 1 Zzzz d Zyyy 3 Zzzz 1 Grek 2f Zzzz 2d Zyyy 1 Zinh 82 Zzzz 1d Lyci 3 Zzzz 31 Cari f Zzzz
  1 Zinh 1b Zyyy 4 Zzzz 24 Ital 9 Zzzz 3 Ital 1b Goth 5 Zzzz 2b Perm 5 Zzzz 1e Ugar 1 Zzzz 1
  Ugar 24 Xpeo 4 Zzzz e Xpeo 2a Zzzz 50 Dsrt 30 Shaw 1e Osma 2 Zzzz a Osma 6 Zzzz 24 Osge 4 Zzzz
  24 Osge 4 Zzzz 28 Elba 8 Zzzz 34 Aghb b Zzzz 1 Aghb b Vith 1 Zzzz f Vith 1 Zzzz 7 Vith 1 Zzzz
  2 Vith 1 Zzzz b Vith 1 Zzzz f Vith 1 Zzzz 7 Vith 1 Zzzz 2 Vith 43 Zzzz 137 Lina 9 Zzzz 16 Lina
  a Zzzz 8 Lina 18 Zzzz 6 Latn 1 Zzzz 2a Latn 1 Zzzz 9 Latn 45 Zzzz 6 Cprt 2 Zzzz 1 Cprt 1 Zzzz
  2c Cprt 1 Zzzz 2 Cprt 3 Zzzz 1 Cprt 2 Zzzz 1 Cprt 16 Armi 1 Zzzz 9 Armi 20 Palm 1f Nbat 8 Zzzz
  9 Nbat 30 Zzzz 13 Hatr 1 Zzzz 2 Hatr 5 Zzzz 5 Hatr 1c Phnx 3 Zzzz 1 Phnx 1a Lydi 5 Zzzz 1 Lydi
  40 Zzzz 20 Mero 18 Merc 4 Zzzz 14 Merc 2 Zzzz 2e Merc 4 Khar 1 Zzzz 2 Khar 5 Zzzz 8 Khar 1
  Zzzz 3 Khar 1 Zzzz 1d Khar 2 Zzzz 3 Khar 4 Zzzz a Khar 7 Zzzz 9 Khar 7 Zzzz 20 Sarb 20 Narb 20
  Zzzz 27 Mani 4 Zzzz c Mani 9 Zzzz 36 Avst 3 Zzzz 7 Avst 16 Prti 2 Zzzz 8 Prti 13 Phli 5 Zzzz 8
  Phli 12 Phlp 7 Zzzz 4 Phlp c Zzzz 7 Phlp 50 Zzzz 49 Orkh 37 Zzzz 33 Hung d Zzzz 33 Hung 7 Zzzz
  6 Hung 28 Rohg 8 Zzzz a Rohg 126 Zzzz 1f Arab 1 Zzzz 2a Yezi 1 Zzzz 3 Yezi 2 Zzzz 2 Yezi 4b
  Zzzz 3 Arab 28 Sogo 8 Zzzz 2a Sogd 16 Zzzz 1a Ougr 26 Zzzz 1c Chrs 14 Zzzz 17 Elym 9 Zzzz 4e
  Brah 4 Zzzz 24 Brah 9 Zzzz 1 Brah 43 Kthi a Zzzz 1 Kthi 2 Zzzz 19 Sora 7 Zzzz a Sora 6 Zzzz 35
  Cakm 1 Zzzz 12 Cakm 8 Zzzz 27 Mahj 9 Zzzz 60 Shrd 1 Zzzz 14 Sinh b Zzzz 12 Khoj 1 Zzzz 2f Khoj
  3e Zzzz 7 Mult 1 Zzzz 1 Mult 1 Zzzz 4 Mult 1 Zzzz f Mult 1 Zzzz b Mult 6 Zzzz 3b Sind 5 Zzzz a
  Sind 6 Zzzz 4 Gran 1 Zzzz 8 Gran 2 Zzzz 2 Gran 2 Zzzz 16 Gran 1 Zzzz 7 Gran 1 Zzzz 2 Gran 1
  Zzzz 5 Gran 1 Zzzz 1 Zinh 9 Gran 2 Zzzz 2 Gran 2 Zzzz 3 Gran 2 Zzzz 1 Gran 6 Zzzz 1 Gran 5
  Zzzz 7 Gran 2 Zzzz 7 Gran 3 Zzzz 5 Gran 8b Zzzz 5c Newa 1 Zzzz 5 Newa 1e Zzzz 48 Tirh 8 Zzzz a
  Tirh a6 Zzzz 36 Sidd 2 Zzzz 26 Sidd 22 Zzzz 45 Modi b Zzzz a Modi 6 Zzzz d Mong 13 Zzzz 3a
  Takr 6 Zzzz a Takr 36 Zzzz 1b Ahom 2 Zzzz f Ahom 4 Zzzz 17 Ahom b9 Zzzz 3c Dogr 64 Zzzz 53
  Wara c Zzzz 1 Wara 7 Diak 2 Zzzz 1 Diak 2 Zzzz 8 Diak 1 Zzzz 2 Diak 1 Zzzz 1e Diak 1 Zzzz 2
  Diak 2 Zzzz c Diak 9 Zzzz a Diak 46 Zzzz 8 Nand 2 Zzzz 2e Nand 2 Zzzz b Nand 1b Zzzz 48 Zanb 8
  Zzzz 53 Soyo d Zzzz 10 Cans 39 Pauc 7 Zzzz a Deva f6 Zzzz 9 Bhks 1 Zzzz 2d Bhks 1 Zzzz e Bhks
  a Zzzz 1d Bhks 3 Zzzz 20 Marc 2 Zzzz 16 Marc 1 Zzzz e Marc 49 Zzzz 7 Gonm 1 Zzzz 2 Gonm 1 Zzzz
  2c Gonm 3 Zzzz 1 Gonm 1 Zzzz 2 Gonm 1 Zzzz 9 Gonm 8 Zzzz a Gonm 6 Zzzz 6 Gong 1 Zzzz 2 Gong 1
  Zzzz 25 Gong 1 Zzzz 2 Gong 1 Zzzz 6 Gong 7 Zzzz a Gong 136 Zzzz 19 Maka 7 Zzzz 11 Kawi 1 Zzzz
  29 Kawi 3 Zzzz 1c Kawi 56 Zzzz 1 Lisu f Zzzz 32 Taml d Zzzz 1 Taml 39a Xsux 66 Zzzz 6f Xsux 1
  Zzzz 5 Xsux b Zzzz c4 Xsux a4c Zzzz 63 Cpmn d Zzzz 456 Egyp faa Zzzz 247 Hluw 21b9 Zzzz 239
  Bamu 7 Zzzz 1f Mroo 1 Zzzz a Mroo 4 Zzzz 2 Mroo 4f Tnsa 1 Zzzz a Tnsa 6 Zzzz 1e Bass 2 Zzzz 6
  Bass a Zzzz 46 Hmng a Zzzz a Hmng 1 Zzzz 7 Hmng 1 Zzzz 15 Hmng 5 Zzzz 13 Hmng 2b0 Zzzz 5b Medf
  65 Zzzz 4b Plrd 4 Zzzz 39 Plrd 7 Zzzz 11 Plrd 40 Zzzz 1 Tang 1 Nshu 2 Hani 1 Kits b Zzzz 2
  Hani e Zzzz 17f8 Tang 8 Zzzz 300 Tang 1d6 Kits 2a Zzzz 9 Tang 22e7 Zzzz 4 Kana 1 Zzzz 7 Kana 1
  Zzzz 2 Kana 1 Zzzz 1 Kana 11f Hira 3 Kana f Zzzz 1 Hira 1d Zzzz 3 Hira 2 Zzzz 1 Kana e Zzzz 4
  Kana 8 Zzzz 18c Nshu 904 Zzzz 6b Dupl 5 Zzzz d Dupl 3 Zzzz 9 Dupl 7 Zzzz a Dupl 2 Zzzz 4 Dupl
  4 Zyyy 125c Zzzz 2e Zinh 2 Zzzz 17 Zinh 9 Zzzz 74 Zyyy 3c Zzzz f6 Zyyy a Zzzz 27 Zyyy 2 Zzzz
  3e Zyyy 3 Zinh 11 Zyyy 8 Zinh 2 Zyyy 7 Zinh 1e Zyyy 4 Zinh 3d Zyyy 15 Zzzz 46 Grek 7a Zzzz 14
  Zyyy c Zzzz 14 Zyyy c Zzzz 57 Zyyy 9 Zzzz 19 Zyyy 87 Zzzz 55 Zyyy 1 Zzzz 47 Zyyy 1 Zzzz 2 Zyyy
  2 Zzzz 1 Zyyy 2 Zzzz 2 Zyyy 2 Zzzz 4 Zyyy 1 Zzzz c Zyyy 1 Zzzz 1 Zyyy 1 Zzzz 7 Zyyy 1 Zzzz 41
  Zyyy 1 Zzzz 4 Zyyy 2 Zzzz 8 Zyyy 1 Zzzz 7 Zyyy 1 Zzzz 1c Zyyy 1 Zzzz 4 Zyyy 1 Zzzz 5 Zyyy 1
  Zzzz 1 Zyyy 3 Zzzz 7 Zyyy 1 Zzzz 154 Zyyy 2 Zzzz 124 Zyyy 2 Zzzz 32 Zyyy 28c Sgnw f Zzzz 5
  Sgnw 1 Zzzz f Sgnw 450 Zzzz 1f Latn 6 Zzzz 6 Latn d5 Zzzz 7 Glag 1 Zzzz 11 Glag 2 Zzzz 7 Glag
  1 Zzzz 2 Glag 1 Zzzz 5 Glag 5 Zzzz 3e Cyrl 21 Zzzz 1 Cyrl 70 Zzzz 2d Hmnp 3 Zzzz e Hmnp 2 Zzzz
  a Hmnp 4 Zzzz 2 Hmnp 140 Zzzz 1f Toto 11 Zzzz 3a Wcho 5 Zzzz 1 Wcho 1d0 Zzzz 2a Nagm 2e6 Zzzz
  7 Ethi 1 Zzzz 4 Ethi 1 Zzzz 2 Ethi 1 Zzzz f Ethi 1 Zzzz c5 Mend 2 Zzzz 10 Mend 29 Zzzz 4c Adlm
  4 Zzzz a Adlm 4 Zzzz 2 Adlm 311 Zzzz 44 Zyyy 4c Zzzz 3d Zyyy c2 Zzzz 4 Arab 1 Zzzz 1b Arab 1
  Zzzz 2 Arab 1 Zzzz 1 Arab 2 Zzzz 1 Arab 1 Zzzz a Arab 1 Zzzz 4 Arab 1 Zzzz 1 Arab 1 Zzzz 1
  Arab 6 Zzzz 1 Arab 4 Zzzz 1 Arab 1 Zzzz 1 Arab 1 Zzzz 1 Arab 1 Zzzz 3 Arab 1 Zzzz 2 Arab 1
  Zzzz 1 Arab 2 Zzzz 1 Arab 1 Zzzz 1 Arab 1 Zzzz 1 Arab 1 Zzzz 1 Arab 1 Zzzz 1 Arab 1 Zzzz 2
  Arab 1 Zzzz 1 Arab 2 Zzzz 4 Arab 1 Zzzz 7 Arab 1 Zzzz 4 Arab 1 Zzzz 4 Arab 1 Zzzz 1 Arab 1
  Zzzz a Arab 1 Zzzz 11 Arab 5 Zzzz 3 Arab 1 Zzzz 5 Arab 1 Zzzz 11 Arab 34 Zzzz 2 Arab 10e Zzzz
  2c Zyyy 4 Zzzz 64 Zyyy c Zzzz f Zyyy 2 Zzzz f Zyyy 1 Zzzz f Zyyy 1 Zzzz 25 Zyyy a Zzzz ae Zyyy
  38 Zzzz 1a Zyyy 1 Hira 2 Zyyy d Zzzz 2c Zyyy 4 Zzzz 9 Zyyy 7 Zzzz 2 Zyyy e Zzzz 6 Zyyy 9a Zzzz
  3d8 Zyyy 4 Zzzz 11 Zyyy 3 Zzzz d Zyyy 3 Zzzz 77 Zyyy 4 Zzzz 5f Zyyy 6 Zzzz c Zyyy 4 Zzzz 1
  Zyyy f Zzzz c Zyyy 4 Zzzz 38 Zyyy 8 Zzzz a Zyyy 6 Zzzz 28 Zyyy 8 Zzzz 1e Zyyy 2 Zzzz 2 Zyyy 4e
  Zzzz 154 Zyyy c Zzzz e Zyyy 2 Zzzz d Zyyy 3 Zzzz a Zyyy 5 Zzzz 38 Zyyy 7 Zzzz f Zyyy 2 Zzzz b
  Zyyy 6 Zzzz 9 Zyyy 7 Zzzz 93 Zyyy 1 Zzzz 37 Zyyy 25 Zzzz a Zyyy 406 Zzzz a6e0 Hani 20 Zzzz
  103a Hani 6 Zzzz de Hani 2 Zzzz 1682 Hani e Zzzz 1d31 Hani f Zzzz 26e Hani 9a2 Zzzz 21e Hani
  5e2 Zzzz 134b Hani 5 Zzzz 1060 Hani adc51 Zzzz 1 Zyyy 1e Zzzz 60 Zyyy 80 Zzzz f0 Zinh 2fe10
  Zzzz"

/-- The code of each script and, behind it, the long name of the script. -/
def scriptNames : String :=
  "Adlm Adlam Aghb Caucasian_Albanian Ahom Ahom Arab Arabic Armi Imperial_Aramaic Armn Armenian
  Avst Avestan Bali Balinese Bamu Bamum Bass Bassa_Vah Batk Batak Beng Bengali Bhks Bhaiksuki
  Bopo Bopomofo Brah Brahmi Brai Braille Bugi Buginese Buhd Buhid Cakm Chakma Cans
  Canadian_Aboriginal Cari Carian Cham Cham Cher Cherokee Chrs Chorasmian Copt Coptic Cpmn
  Cypro_Minoan Cprt Cypriot Cyrl Cyrillic Deva Devanagari Diak Dives_Akuru Dogr Dogra Dsrt
  Deseret Dupl Duployan Egyp Egyptian_Hieroglyphs Elba Elbasan Elym Elymaic Ethi Ethiopic Geor
  Georgian Glag Glagolitic Gong Gunjala_Gondi Gonm Masaram_Gondi Goth Gothic Gran Grantha Grek
  Greek Gujr Gujarati Guru Gurmukhi Hang Hangul Hani Han Hano Hanunoo Hatr Hatran Hebr Hebrew
  Hira Hiragana Hluw Anatolian_Hieroglyphs Hmng Pahawh_Hmong Hmnp Nyiakeng_Puachue_Hmong Hung
  Old_Hungarian Ital Old_Italic Java Javanese Kali Kayah_Li Kana Katakana Kawi Kawi Khar
  Kharoshthi Khmr Khmer Khoj Khojki Kits Khitan_Small_Script Knda Kannada Kthi Kaithi Lana
  Tai_Tham Laoo Lao Latn Latin Lepc Lepcha Limb Limbu Lina Linear_A Linb Linear_B Lisu Lisu Lyci
  Lycian Lydi Lydian Mahj Mahajani Maka Makasar Mand Mandaic Mani Manichaean Marc Marchen Medf
  Medefaidrin Mend Mende_Kikakui Merc Meroitic_Cursive Mero Meroitic_Hieroglyphs Mlym Malayalam
  Modi Modi Mong Mongolian Mroo Mro Mtei Meetei_Mayek Mult Multani Mymr Myanmar Nagm Nag_Mundari
  Nand Nandinagari Narb Old_North_Arabian Nbat Nabataean Newa Newa Nkoo Nko Nshu Nushu Ogam
  Ogham Olck Ol_Chiki Orkh Old_Turkic Orya Oriya Osge Osage Osma Osmanya Ougr Old_Uyghur Palm
  Palmyrene Pauc Pau_Cin_Hau Perm Old_Permic Phag Phags_Pa Phli Inscriptional_Pahlavi Phlp
  Psalter_Pahlavi Phnx Phoenician Plrd Miao Prti Inscriptional_Parthian Rjng Rejang Rohg
  Hanifi_Rohingya Runr Runic Samr Samaritan Sarb Old_South_Arabian Saur Saurashtra Sgnw
  SignWriting Shaw Shavian Shrd Sharada Sidd Siddham Sind Khudawadi Sinh Sinhala Sogd Sogdian
  Sogo Old_Sogdian Sora Sora_Sompeng Soyo Soyombo Sund Sundanese Sylo Syloti_Nagri Syrc Syriac
  Tagb Tagbanwa Takr Takri Tale Tai_Le Talu New_Tai_Lue Taml Tamil Tang Tangut Tavt Tai_Viet
  Telu Telugu Tfng Tifinagh Tglg Tagalog Thaa Thaana Thai Thai Tibt Tibetan Tirh Tirhuta Tnsa
  Tangsa Toto Toto Ugar Ugaritic Vaii Vai Vith Vithkuqi Wara Warang_Citi Wcho Wancho Xpeo
  Old_Persian Xsux Cuneiform Yezi Yezidi Yiii Yi Zanb Zanabazar_Square Zinh Inherited Zyyy
  Common Zzzz Unknown"

end ScreenQuery.Text
