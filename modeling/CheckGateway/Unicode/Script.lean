/-
The Script property of Unicode 16. In the table each script has the four
letters of its code, and Zzzz stands where there is none. A script is
named by its code or by its long name.
-/
import CheckGateway.Unicode.RunTable

namespace CheckGateway.Unicode.Script

/-- The runs of equal script, in code point order. -/
def runText : List String := [
    "65Zyyy26Latn6Zyyy26Latn47ZyyyLatn15ZyyyLatn5Zyyy23LatnZyyy31LatnZyyy449Latn39Zyyy5La",
    "tn5Zyyy2Bopo20Zyyy112Zinh4GrekZyyy3Grek2Zzzz4GrekZyyyGrek4ZzzzGrekZyyyGrekZyyy3GrekZ",
    "zzzGrekZzzz20GrekZzzz63Grek14Copt16Grek133Cyrl2Zinh169CyrlZzzz38Armn2Zzzz50Armn2Zzzz",
    "3ArmnZzzz55Hebr8Zzzz27Hebr4Zzzz6Hebr11Zzzz5ArabZyyy6ArabZyyy14ArabZyyy3ArabZyyy32Ara",
    "bZyyy10Arab11Zinh26ArabZinh108ArabZyyy34Arab14SyrcZzzz60Syrc2Zzzz3Syrc48Arab50Thaa14",
    "Zzzz59Nkoo2Zzzz3Nkoo46Samr2Zzzz15SamrZzzz28Mand2ZzzzMandZzzz11Syrc5Zzzz31ArabZzzz2Ar",
    "ab5Zzzz75ArabZyyy29Arab81Deva4Zinh15Deva2Zyyy26Deva4BengZzzz8Beng2Zzzz2Beng2Zzzz22Be",
    "ngZzzz7BengZzzzBeng3Zzzz4Beng2Zzzz9Beng2Zzzz2Beng2Zzzz4Beng8ZzzzBeng4Zzzz2BengZzzz5B",
    "eng2Zzzz25Beng2Zzzz3GuruZzzz6Guru4Zzzz2Guru2Zzzz22GuruZzzz7GuruZzzz2GuruZzzz2GuruZzz",
    "z2Guru2ZzzzGuruZzzz5Guru4Zzzz2Guru2Zzzz3Guru3ZzzzGuru7Zzzz4GuruZzzzGuru7Zzzz17Guru10",
    "Zzzz3GujrZzzz9GujrZzzz3GujrZzzz22GujrZzzz7GujrZzzz2GujrZzzz5Gujr2Zzzz10GujrZzzz3Gujr",
    "Zzzz3Gujr2ZzzzGujr15Zzzz4Gujr2Zzzz12Gujr7Zzzz7GujrZzzz3OryaZzzz8Orya2Zzzz2Orya2Zzzz2",
    "2OryaZzzz7OryaZzzz2OryaZzzz5Orya2Zzzz9Orya2Zzzz2Orya2Zzzz3Orya7Zzzz3Orya4Zzzz2OryaZz",
    "zz5Orya2Zzzz18Orya10Zzzz2TamlZzzz6Taml3Zzzz3TamlZzzz4Taml3Zzzz2TamlZzzzTamlZzzz2Taml",
    "3Zzzz2Taml3Zzzz3Taml3Zzzz12Taml4Zzzz5Taml3Zzzz3TamlZzzz4Taml2ZzzzTaml6ZzzzTaml14Zzzz",
    "21Taml5Zzzz13TeluZzzz3TeluZzzz23TeluZzzz16Telu2Zzzz9TeluZzzz3TeluZzzz4Telu7Zzzz2Telu",
    "Zzzz3Telu2ZzzzTelu2Zzzz4Telu2Zzzz10Telu7Zzzz9Telu13KndaZzzz3KndaZzzz23KndaZzzz10Knda",
    "Zzzz5Knda2Zzzz9KndaZzzz3KndaZzzz4Knda7Zzzz2Knda6Zzzz2KndaZzzz4Knda2Zzzz10KndaZzzz3Kn",
    "da12Zzzz13MlymZzzz3MlymZzzz51MlymZzzz3MlymZzzz6Mlym4Zzzz16Mlym2Zzzz26MlymZzzz3SinhZz",
    "zz18Sinh3Zzzz24SinhZzzz9SinhZzzzSinh2Zzzz7Sinh3ZzzzSinh4Zzzz6SinhZzzzSinhZzzz8Sinh6Z",
    "zzz10Sinh2Zzzz3Sinh12Zzzz58Thai4ZzzzZyyy28Thai37Zzzz2LaooZzzzLaooZzzz5LaooZzzz24Laoo",
    "ZzzzLaooZzzz23Laoo2Zzzz5LaooZzzzLaooZzzz7LaooZzzz10Laoo2Zzzz4Laoo32Zzzz72TibtZzzz36T",
    "ibt4Zzzz39TibtZzzz36TibtZzzz15TibtZzzz7Tibt4Zyyy2Tibt37Zzzz160Mymr38GeorZzzzGeor5Zzz",
    "zGeor2Zzzz43GeorZyyy4Geor256Hang73EthiZzzz4Ethi2Zzzz7EthiZzzzEthiZzzz4Ethi2Zzzz41Eth",
    "iZzzz4Ethi2Zzzz33EthiZzzz4Ethi2Zzzz7EthiZzzzEthiZzzz4Ethi2Zzzz15EthiZzzz57EthiZzzz4E",
    "thi2Zzzz67Ethi2Zzzz32Ethi3Zzzz26Ethi6Zzzz86Cher2Zzzz6Cher2Zzzz640Cans29Ogam3Zzzz75Ru",
    "nr3Zyyy11Runr7Zzzz22Tglg9ZzzzTglg21Hano2Zyyy9Zzzz20Buhd12Zzzz13TagbZzzz3TagbZzzz2Tag",
    "b12Zzzz94Khmr2Zzzz10Khmr6Zzzz10Khmr6Zzzz2Mong2ZyyyMongZyyy20Mong6Zzzz89Mong7Zzzz43Mo",
    "ng5Zzzz70Cans10Zzzz31LimbZzzz12Limb4Zzzz12Limb4ZzzzLimb3Zzzz12Limb30Tale2Zzzz5Tale11",
    "Zzzz44Talu4Zzzz26Talu6Zzzz11Talu3Zzzz2Talu32Khmr28Bugi2Zzzz2Bugi63LanaZzzz29Lana2Zzz",
    "z11Lana6Zzzz10Lana6Zzzz14Lana2Zzzz31Zinh49Zzzz77BaliZzzz50Bali64Sund52Batk8Zzzz4Batk",
    "56Lepc3Zzzz15Lepc3Zzzz3Lepc48Olck11Cyrl5Zzzz43Geor2Zzzz3Geor8Sund8Zzzz3ZinhZyyy13Zin",
    "hZyyy7Zinh4ZyyyZinh6ZyyyZinh3Zyyy2ZinhZyyy5Zzzz38Latn5GrekCyrl49Latn5Grek4Latn5Grek1",
    "3LatnCyrl70LatnGrek64Zinh256Latn22Grek2Zzzz6Grek2Zzzz38Grek2Zzzz6Grek2Zzzz8GrekZzzzG",
    "rekZzzzGrekZzzzGrekZzzz31Grek2Zzzz53GrekZzzz15GrekZzzz14Grek2Zzzz6GrekZzzz19Grek2Zzz",
    "z3GrekZzzz9GrekZzzz12Zyyy2Zinh87ZyyyZzzz11ZyyyLatn2Zzzz11ZyyyLatn15ZyyyZzzz13Latn3Zz",
    "zz33Zyyy15Zzzz33Zinh15Zzzz38ZyyyGrek3Zyyy2Latn6ZyyyLatn27ZyyyLatn17Zyyy41Latn3Zyyy4Z",
    "zzz666Zyyy22Zzzz11Zyyy21Zzzz928Zyyy256Brai628Zyyy2Zzzz32ZyyyZzzz105Zyyy96Glag32Latn1",
    "16Copt5Zzzz7Copt38GeorZzzzGeor5ZzzzGeor2Zzzz56Tfng7Zzzz2Tfng14ZzzzTfng23Ethi9Zzzz7Et",
    "hiZzzz7EthiZzzz7EthiZzzz7EthiZzzz7EthiZzzz7EthiZzzz7EthiZzzz7EthiZzzz32Cyrl94Zyyy34Z",
    "zzz26HaniZzzz89Hani12Zzzz214Hani26Zzzz21ZyyyHaniZyyyHani25Zyyy9Hani4Zinh2Hang8Zyyy4H",
    "ani4ZyyyZzzz86Hira2Zzzz2Zinh2Zyyy3HiraZyyy90Kana2Zyyy3Kana5Zzzz43BopoZzzz94HangZzzz1",
    "6Zyyy32Bopo38Zyyy9ZzzzZyyy16Kana31HangZzzz64Zyyy31Hang81Zyyy47KanaZyyy88Kana168Zyyy6",
    "592Hani64Zyyy20992Hani1165Yiii3Zzzz55Yiii9Zzzz48Lisu300Vaii20Zzzz96Cyrl88Bamu8Zzzz34",
    "Zyyy102Latn3Zyyy67Latn2Zzzz2LatnZzzzLatnZzzz8Latn21Zzzz14Latn45Sylo3Zzzz10Zyyy6Zzzz5",
    "6Phag8Zzzz70Saur8Zzzz12Saur6Zzzz32Deva46KaliZyyyKali36Rjng11ZzzzRjng29Hang3Zzzz78Jav",
    "aZzzzZyyy10Java4Zzzz2Java31MymrZzzz55Cham9Zzzz14Cham2Zzzz10Cham2Zzzz4Cham32Mymr67Tav",
    "t24Zzzz5Tavt23Mtei10Zzzz6Ethi2Zzzz6Ethi2Zzzz6Ethi9Zzzz7EthiZzzz7EthiZzzz43LatnZyyy9L",
    "atnGrek4Latn2Zyyy4Zzzz80Cher46Mtei2Zzzz10Mtei6Zzzz11172Hang12Zzzz23Hang4Zzzz49Hang84",
    "52Zzzz366Hani2Zzzz106Hani38Zzzz7Latn12Zzzz5Armn5Zzzz26HebrZzzz5HebrZzzzHebrZzzz2Hebr",
    "Zzzz2HebrZzzz10Hebr115Arab16Zzzz363Arab2Zyyy80Arab2Zzzz54Arab7ZzzzArab32Zzzz16Arab16",
    "Zinh10Zyyy6Zzzz14Zinh2Cyrl35ZyyyZzzz19ZyyyZzzz4Zyyy4Zzzz5ArabZzzz135Arab2ZzzzZyyyZzz",
    "z32Zyyy26Latn6Zyyy26Latn11Zyyy10KanaZyyy45Kana2Zyyy31Hang3Zzzz6Hang2Zzzz6Hang2Zzzz6H",
    "ang2Zzzz3Hang3Zzzz7ZyyyZzzz7Zyyy10Zzzz5Zyyy2Zzzz12LinbZzzz26LinbZzzz19LinbZzzz2LinbZ",
    "zzz15Linb2Zzzz14Linb34Zzzz123Linb5Zzzz3Zyyy4Zzzz45Zyyy3Zzzz9Zyyy79GrekZzzz13Zyyy3Zzz",
    "zGrek47Zzzz45ZyyyZinh130Zzzz29Lyci3Zzzz49Cari15ZzzzZinh27Zyyy4Zzzz36Ital9Zzzz3Ital27",
    "Goth5Zzzz43Perm5Zzzz30UgarZzzzUgar36Xpeo4Zzzz14Xpeo42Zzzz80Dsrt48Shaw30Osma2Zzzz10Os",
    "ma6Zzzz36Osge4Zzzz36Osge4Zzzz40Elba8Zzzz52Aghb11ZzzzAghb11VithZzzz15VithZzzz7VithZzz",
    "z2VithZzzz11VithZzzz15VithZzzz7VithZzzz2Vith3Zzzz52Todr12Zzzz311Lina9Zzzz22Lina10Zzz",
    "z8Lina24Zzzz6LatnZzzz42LatnZzzz9Latn69Zzzz6Cprt2ZzzzCprtZzzz44CprtZzzz2Cprt3ZzzzCprt",
    "2ZzzzCprt22ArmiZzzz9Armi32Palm31Nbat8Zzzz9Nbat48Zzzz19HatrZzzz2Hatr5Zzzz5Hatr28Phnx3",
    "ZzzzPhnx26Lydi5ZzzzLydi64Zzzz32Mero24Merc4Zzzz20Merc2Zzzz46Merc4KharZzzz2Khar5Zzzz8K",
    "harZzzz3KharZzzz29Khar2Zzzz3Khar4Zzzz10Khar7Zzzz9Khar7Zzzz32Sarb32Narb32Zzzz39Mani4Z",
    "zzz12Mani9Zzzz54Avst3Zzzz7Avst22Prti2Zzzz8Prti19Phli5Zzzz8Phli18Phlp7Zzzz4Phlp12Zzzz",
    "7Phlp80Zzzz73Orkh55Zzzz51Hung13Zzzz51Hung7Zzzz6Hung40Rohg8Zzzz10Rohg6Zzzz38Gara3Zzzz",
    "29Gara8Zzzz2Gara208Zzzz31ArabZzzz42YeziZzzz3Yezi2Zzzz2Yezi16Zzzz3Arab55Zzzz4Arab40So",
    "go8Zzzz42Sogd22Zzzz26Ougr38Zzzz28Chrs20Zzzz23Elym9Zzzz78Brah4Zzzz36Brah9ZzzzBrah67Kt",
    "hi10ZzzzKthi2Zzzz25Sora7Zzzz10Sora6Zzzz53CakmZzzz18Cakm8Zzzz39Mahj9Zzzz96ShrdZzzz20S",
    "inh11Zzzz18KhojZzzz47Khoj62Zzzz7MultZzzzMultZzzz4MultZzzz15MultZzzz11Mult6Zzzz59Sind",
    "5Zzzz10Sind6Zzzz4GranZzzz8Gran2Zzzz2Gran2Zzzz22GranZzzz7GranZzzz2GranZzzz5GranZzzzZi",
    "nh9Gran2Zzzz2Gran2Zzzz3Gran2ZzzzGran6ZzzzGran5Zzzz7Gran2Zzzz7Gran3Zzzz5Gran11Zzzz10T",
    "utgZzzzTutg2ZzzzTutgZzzz38TutgZzzz10TutgZzzzTutg2ZzzzTutgZzzz4TutgZzzz10TutgZzzz2Tut",
    "g8Zzzz2Tutg29Zzzz92NewaZzzz5Newa30Zzzz72Tirh8Zzzz10Tirh166Zzzz54Sidd2Zzzz38Sidd34Zzz",
    "z69Modi11Zzzz10Modi6Zzzz13Mong19Zzzz58Takr6Zzzz10Takr6Zzzz20Mymr28Zzzz27Ahom2Zzzz15A",
    "hom4Zzzz23Ahom185Zzzz60Dogr100Zzzz83Wara12ZzzzWara7Diak2ZzzzDiak2Zzzz8DiakZzzz2DiakZ",
    "zzz30DiakZzzz2Diak2Zzzz12Diak9Zzzz10Diak70Zzzz8Nand2Zzzz46Nand2Zzzz11Nand27Zzzz72Zan",
    "b8Zzzz83Soyo13Zzzz16Cans57Pauc7Zzzz10Deva182Zzzz34Sunu14Zzzz10Sunu6Zzzz9BhksZzzz45Bh",
    "ksZzzz14Bhks10Zzzz29Bhks3Zzzz32Marc2Zzzz22MarcZzzz14Marc73Zzzz7GonmZzzz2GonmZzzz44Go",
    "nm3ZzzzGonmZzzz2GonmZzzz9Gonm8Zzzz10Gonm6Zzzz6GongZzzz2GongZzzz37GongZzzz2GongZzzz6G",
    "ong7Zzzz10Gong310Zzzz25Maka7Zzzz17KawiZzzz41Kawi3Zzzz29Kawi85ZzzzLisu15Zzzz50Taml13Z",
    "zzzTaml922Xsux102Zzzz111XsuxZzzz5Xsux11Zzzz196Xsux2636Zzzz99Cpmn13Zzzz1110Egyp10Zzzz",
    "3995Egyp5Zzzz583Hluw6841Zzzz58Gukh1734Zzzz569Bamu7Zzzz31MrooZzzz10Mroo4Zzzz2Mroo79Tn",
    "saZzzz10Tnsa6Zzzz30Bass2Zzzz6Bass10Zzzz70Hmng10Zzzz10HmngZzzz7HmngZzzz21Hmng5Zzzz19H",
    "mng432Zzzz58Krai198Zzzz91Medf101Zzzz75Plrd4Zzzz57Plrd7Zzzz17Plrd64ZzzzTangNshu2HaniK",
    "its11Zzzz2Hani14Zzzz6136Tang8Zzzz768Tang470Kits41ZzzzKits9Tang8935Zzzz4KanaZzzz7Kana",
    "Zzzz2KanaZzzzKana287Hira3Kana15ZzzzHira29Zzzz3Hira2ZzzzKana14Zzzz4Kana8Zzzz396Nshu23",
    "08Zzzz107Dupl5Zzzz13Dupl3Zzzz9Dupl7Zzzz10Dupl2Zzzz4Dupl4Zyyy3932Zzzz250Zyyy6Zzzz436Z",
    "yyy76Zzzz46Zinh2Zzzz23Zinh9Zzzz116Zyyy60Zzzz246Zyyy10Zzzz39Zyyy2Zzzz62Zyyy3Zinh17Zyy",
    "y8Zinh2Zyyy7Zinh30Zyyy4Zinh61Zyyy21Zzzz70Grek122Zzzz20Zyyy12Zzzz20Zyyy12Zzzz87Zyyy9Z",
    "zzz25Zyyy135Zzzz85ZyyyZzzz71ZyyyZzzz2Zyyy2ZzzzZyyy2Zzzz2Zyyy2Zzzz4ZyyyZzzz12ZyyyZzzz",
    "ZyyyZzzz7ZyyyZzzz65ZyyyZzzz4Zyyy2Zzzz8ZyyyZzzz7ZyyyZzzz28ZyyyZzzz4ZyyyZzzz5ZyyyZzzzZ",
    "yyy3Zzzz7ZyyyZzzz340Zyyy2Zzzz292Zyyy2Zzzz50Zyyy652Sgnw15Zzzz5SgnwZzzz15Sgnw1104Zzzz3",
    "1Latn6Zzzz6Latn213Zzzz7GlagZzzz17Glag2Zzzz7GlagZzzz2GlagZzzz5Glag5Zzzz62Cyrl33ZzzzCy",
    "rl112Zzzz45Hmnp3Zzzz14Hmnp2Zzzz10Hmnp4Zzzz2Hmnp320Zzzz31Toto17Zzzz58Wcho5ZzzzWcho464",
    "Zzzz42Nagm214Zzzz43Onao4ZzzzOnao480Zzzz7EthiZzzz4EthiZzzz2EthiZzzz15EthiZzzz197Mend2",
    "Zzzz16Mend41Zzzz76Adlm4Zzzz10Adlm4Zzzz2Adlm785Zzzz68Zyyy76Zzzz61Zyyy194Zzzz4ArabZzzz",
    "27ArabZzzz2ArabZzzzArab2ZzzzArabZzzz10ArabZzzz4ArabZzzzArabZzzzArab6ZzzzArab4ZzzzAra",
    "bZzzzArabZzzzArabZzzz3ArabZzzz2ArabZzzzArab2ZzzzArabZzzzArabZzzzArabZzzzArabZzzzArab",
    "Zzzz2ArabZzzzArab2Zzzz4ArabZzzz7ArabZzzz4ArabZzzz4ArabZzzzArabZzzz10ArabZzzz17Arab5Z",
    "zzz3ArabZzzz5ArabZzzz17Arab52Zzzz2Arab270Zzzz44Zyyy4Zzzz100Zyyy12Zzzz15Zyyy2Zzzz15Zy",
    "yyZzzz15ZyyyZzzz37Zyyy10Zzzz174Zyyy56Zzzz26ZyyyHira2Zyyy13Zzzz44Zyyy4Zzzz9Zyyy7Zzzz2",
    "Zyyy14Zzzz6Zyyy154Zzzz984Zyyy4Zzzz17Zyyy3Zzzz13Zyyy3Zzzz119Zyyy4Zzzz95Zyyy6Zzzz12Zyy",
    "y4ZzzzZyyy15Zzzz12Zyyy4Zzzz56Zyyy8Zzzz10Zyyy6Zzzz40Zyyy8Zzzz30Zyyy2Zzzz12Zyyy4Zzzz2Z",
    "yyy62Zzzz340Zyyy12Zzzz14Zyyy2Zzzz13Zyyy3Zzzz10Zyyy5Zzzz56Zyyy7Zzzz15Zyyy2Zzzz11Zyyy6",
    "Zzzz9Zyyy7Zzzz147ZyyyZzzz102Zyyy1030Zzzz42720Hani32Zzzz4154Hani6Zzzz222Hani2Zzzz5762",
    "Hani14Zzzz7473Hani15Zzzz622Hani2466Zzzz542Hani1506Zzzz4939Hani5Zzzz4192Hani711761Zzz",
    "zZyyy30Zzzz96Zyyy128Zzzz240Zinh196112Zzzz"]

/-- The decoded table, with codes in lower case. -/
def table : RunTable String :=
  .ofText 4 (fun symbol => String.ofList (symbol.map Char.toLower)) runText

/-- The code points of a script, by its code. -/
def members (code : String) : CodePointSet :=
  table.preimage (· == code)

/-- The names of each script, its code first; all in lower case without
spaces, hyphens and underscores, separated by blanks. -/
def nameText : List String :=
  [
    "adlm adlam",
    "aghb caucasianalbanian",
    "ahom",
    "arab arabic",
    "armi imperialaramaic",
    "armn armenian",
    "avst avestan",
    "bali balinese",
    "bamu bamum",
    "bass bassavah",
    "batk batak",
    "beng bengali",
    "bhks bhaiksuki",
    "bopo bopomofo",
    "brah brahmi",
    "brai braille",
    "bugi buginese",
    "buhd buhid",
    "cakm chakma",
    "cans canadianaboriginal",
    "cari carian",
    "cham",
    "cher cherokee",
    "chrs chorasmian",
    "copt coptic qaac",
    "cpmn cyprominoan",
    "cprt cypriot",
    "cyrl cyrillic",
    "deva devanagari",
    "diak divesakuru",
    "dogr dogra",
    "dsrt deseret",
    "dupl duployan",
    "egyp egyptianhieroglyphs",
    "elba elbasan",
    "elym elymaic",
    "ethi ethiopic",
    "gara garay",
    "geor georgian",
    "glag glagolitic",
    "gong gunjalagondi",
    "gonm masaramgondi",
    "goth gothic",
    "gran grantha",
    "grek greek",
    "gujr gujarati",
    "gukh gurungkhema",
    "guru gurmukhi",
    "hang hangul",
    "hani han",
    "hano hanunoo",
    "hatr hatran",
    "hebr hebrew",
    "hira hiragana",
    "hluw anatolianhieroglyphs",
    "hmng pahawhhmong",
    "hmnp nyiakengpuachuehmong",
    "hung oldhungarian",
    "ital olditalic",
    "java javanese",
    "kali kayahli",
    "kana katakana",
    "kawi",
    "khar kharoshthi",
    "khmr khmer",
    "khoj khojki",
    "kits khitansmallscript",
    "knda kannada",
    "krai kiratrai",
    "kthi kaithi",
    "lana taitham",
    "laoo lao",
    "latn latin",
    "lepc lepcha",
    "limb limbu",
    "lina lineara",
    "linb linearb",
    "lisu",
    "lyci lycian",
    "lydi lydian",
    "mahj mahajani",
    "maka makasar",
    "mand mandaic",
    "mani manichaean",
    "marc marchen",
    "medf medefaidrin",
    "mend mendekikakui",
    "merc meroiticcursive",
    "mero meroitichieroglyphs",
    "mlym malayalam",
    "modi",
    "mong mongolian",
    "mroo mro",
    "mtei meeteimayek",
    "mult multani",
    "mymr myanmar",
    "nagm nagmundari",
    "nand nandinagari",
    "narb oldnortharabian",
    "nbat nabataean",
    "newa",
    "nkoo nko",
    "nshu nushu",
    "ogam ogham",
    "olck olchiki",
    "onao olonal",
    "orkh oldturkic",
    "orya oriya",
    "osge osage",
    "osma osmanya",
    "ougr olduyghur",
    "palm palmyrene",
    "pauc paucinhau",
    "perm oldpermic",
    "phag phagspa",
    "phli inscriptionalpahlavi",
    "phlp psalterpahlavi",
    "phnx phoenician",
    "plrd miao",
    "prti inscriptionalparthian",
    "rjng rejang",
    "rohg hanifirohingya",
    "runr runic",
    "samr samaritan",
    "sarb oldsoutharabian",
    "saur saurashtra",
    "sgnw signwriting",
    "shaw shavian",
    "shrd sharada",
    "sidd siddham",
    "sind khudawadi",
    "sinh sinhala",
    "sogd sogdian",
    "sogo oldsogdian",
    "sora sorasompeng",
    "soyo soyombo",
    "sund sundanese",
    "sunu sunuwar",
    "sylo sylotinagri",
    "syrc syriac",
    "tagb tagbanwa",
    "takr takri",
    "tale taile",
    "talu newtailue",
    "taml tamil",
    "tang tangut",
    "tavt taiviet",
    "telu telugu",
    "tfng tifinagh",
    "tglg tagalog",
    "thaa thaana",
    "thai",
    "tibt tibetan",
    "tirh tirhuta",
    "tnsa tangsa",
    "todr todhri",
    "toto",
    "tutg tulutigalari",
    "ugar ugaritic",
    "vaii vai",
    "vith vithkuqi",
    "wara warangciti",
    "wcho wancho",
    "xpeo oldpersian",
    "xsux cuneiform",
    "yezi yezidi",
    "yiii yi",
    "zanb zanabazarsquare",
    "zinh inherited qaai",
    "zyyy common"]

/-- The names of each script, its code first. -/
def names : List (List String) :=
  nameText.map fun line => (line.splitOn " ")

/-- The code of the script with a name. -/
def ofName? (name : String) : Option String :=
  (names.find? fun aliases => aliases.contains name).bind List.head?

end CheckGateway.Unicode.Script
