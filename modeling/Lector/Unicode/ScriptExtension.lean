/-!
# Script extensions

Characters that are written in several scripts, or in another than the one that they belong to. Each
row lists scripts, by one name each, with the runs of the characters that are written in just those,
in the notation of `CharSet.ofRuns`. All other characters are written in their own script alone.
-/

namespace Lector.Unicode

/-- The scripts and the runs of the characters that are written in them. -/
def scriptExtensionRuns : List (List String × String) := [
  (["Avst", "Cari", "Copt", "Dupl", "Elba", "Geor", "Glag", "Gong", "Goth", "Grek", "Hani", "Latn",
    "Lydi", "Mahj", "Perm", "Shaw"],
    "b7 0"),
  (["Beng", "Cyrl", "Deva", "Latn", "Lisu", "Thai", "Toto"], "2bc 0"),
  (["Bopo", "Latn"], "2c7 0 1 2 d 0"),
  (["Latn", "Lisu"], "2cd 0"),
  (["Latn", "Thai"], "2d7 0"),
  (["Cher", "Copt", "Cyrl", "Grek", "Latn", "Perm", "Sunu", "Tale"], "300 0"),
  (["Cher", "Cyrl", "Grek", "Latn", "Osge", "Sunu", "Tale", "Todr"], "301 0"),
  (["Cher", "Cyrl", "Latn", "Tfng"], "302 0"),
  (["Glag", "Latn", "Sunu", "Syrc", "Thai"], "303 0"),
  (["Aghb", "Cher", "Copt", "Cyrl", "Goth", "Grek", "Latn", "Osge", "Syrc", "Tfng", "Todr"],
    "304 0"),
  (["Copt", "Elba", "Glag", "Goth", "Kana", "Latn"], "305 0"),
  (["Cyrl", "Grek", "Latn", "Perm", "Tfng"], "306 0"),
  (["Copt", "Dupl", "Hebr", "Latn", "Perm", "Syrc", "Tale", "Tfng", "Todr"], "307 0"),
  (["Armn", "Cyrl", "Dupl", "Goth", "Grek", "Hebr", "Latn", "Perm", "Syrc", "Tale", "Tfng"],
    "308 0"),
  (["Latn", "Tfng"], "309 0"),
  (["Dupl", "Latn", "Syrc"], "30a 0"),
  (["Cher", "Cyrl", "Latn", "Osge"], "30b 0"),
  (["Cher", "Latn", "Tale"], "30c 0"),
  (["Latn", "Sunu"], "30d 0 2 0"),
  (["Ethi", "Latn"], "30e 0"),
  (["Cyrl", "Latn", "Todr"], "311 0"),
  (["Grek", "Latn", "Perm", "Todr"], "313 0"),
  (["Cher", "Dupl", "Kana", "Latn", "Syrc", "Tfng"], "323 0"),
  (["Cher", "Dupl", "Latn", "Syrc"], "324 0"),
  (["Latn", "Syrc"], "325 0 8 0"),
  (["Latn", "Sunu", "Syrc"], "32d 0"),
  (["Cher", "Latn", "Syrc"], "330 0"),
  (["Aghb", "Cher", "Goth", "Latn", "Sunu", "Syrc", "Thai"], "331 0"),
  (["Grek"], "342 0 2 0 1a7a 1"),
  (["Latn", "Osge"], "358 0"),
  (["Aghb", "Latn", "Todr"], "35e 0"),
  (["Latn"], "363 c"),
  (["Copt", "Grek"], "374 1"),
  (["Cyrl", "Perm"], "483 0"),
  (["Cyrl", "Glag"], "484 0 2 0 29bb 0 782b 0"),
  (["Cyrl", "Latn"], "485 1"),
  (["Armn", "Geor", "Glag"], "589 0"),
  (["Arab", "Gara", "Nkoo", "Rohg", "Syrc", "Thaa", "Yezi"], "60c 0 e 0"),
  (["Arab", "Syrc", "Thaa"], "61c 0"),
  (["Adlm", "Arab", "Gara", "Nkoo", "Rohg", "Syrc", "Thaa", "Yezi"], "61f 0"),
  (["Adlm", "Arab", "Mand", "Mani", "Ougr", "Phlp", "Rohg", "Sogd", "Syrc"], "640 0"),
  (["Arab", "Syrc"], "64b a 1a 0"),
  (["Arab", "Thaa", "Yezi"], "660 9"),
  (["Arab", "Rohg"], "6d4 0"),
  (["Beng", "Deva", "Gran", "Gujr", "Guru", "Knda", "Latn", "Mlym", "Nand", "Newa", "Orya", "Shrd",
    "Taml", "Telu", "Tirh"],
    "951 0"),
  (["Beng", "Deva", "Gran", "Gujr", "Guru", "Knda", "Latn", "Mlym", "Newa", "Orya", "Taml", "Telu",
    "Tirh"],
    "952 0"),
  (["Beng", "Deva", "Dogr", "Gong", "Gonm", "Gran", "Gujr", "Guru", "Knda", "Mahj", "Mlym", "Nand",
    "Onao", "Orya", "Sind", "Sinh", "Sylo", "Takr", "Taml", "Telu", "Tirh"],
    "964 0"),
  (["Beng", "Deva", "Dogr", "Gong", "Gonm", "Gran", "Gujr", "Gukh", "Guru", "Knda", "Limb", "Mahj",
    "Mlym", "Nand", "Onao", "Orya", "Sind", "Sinh", "Sylo", "Takr", "Taml", "Telu", "Tirh"],
    "965 0"),
  (["Deva", "Dogr", "Kthi", "Mahj"], "966 9"),
  (["Beng", "Cakm", "Sylo"], "9e6 9"),
  (["Guru", "Mult"], "a66 9"),
  (["Gujr", "Khoj"], "ae6 9"),
  (["Gran", "Taml"], "be6 d 1070d 0 1 0 37 1 c93 1 1 0"),
  (["Knda", "Nand", "Tutg"], "ce6 9"),
  (["Cakm", "Mymr", "Tale"], "1040 9"),
  (["Geor", "Glag", "Latn"], "10fb 0"),
  (["Runr"], "16eb 2"),
  (["Buhd", "Hano", "Tagb", "Tglg"], "1735 1"),
  (["Mong", "Phag"], "1802 1 1 0"),
  (["Beng", "Deva", "Gran", "Knda"], "1cd0 0 1 0"),
  (["Deva"], "1cd1 0 2 0 6 0 2 1 3 5 3 0 1 3"),
  (["Deva", "Gran", "Knda"], "1cd3 0"),
  (["Beng", "Deva", "Newa", "Telu", "Tirh"], "1cd5 0"),
  (["Beng", "Deva", "Telu"], "1cd6 0"),
  (["Deva", "Newa", "Shrd"], "1cd7 0"),
  (["Beng", "Deva", "Newa", "Telu"], "1cd8 0"),
  (["Deva", "Shrd"], "1cd9 0 2 1 2 0"),
  (["Deva", "Knda", "Mlym", "Orya", "Taml", "Telu"], "1cda 0"),
  (["Beng", "Deva"], "1ce1 0 13 1"),
  (["Deva", "Newa", "Tirh"], "1ce2 0"),
  (["Deva", "Nand", "Newa"], "1ce9 0"),
  (["Beng", "Deva", "Shrd"], "1cea 0"),
  (["Deva", "Newa"], "1ceb 0"),
  (["Beng", "Deva", "Newa", "Shrd"], "1ced 0"),
  (["Beng", "Deva", "Gran", "Knda", "Mlym", "Nand", "Orya", "Sinh", "Telu", "Tirh", "Tutg"],
    "1cf2 0"),
  (["Deva", "Gran"], "1cf3 0 4 1"),
  (["Deva", "Gran", "Knda", "Tutg"], "1cf4 0"),
  (["Beng"], "1cf7 0"),
  (["Nand"], "1cfa 0"),
  (["Cyrl", "Latn", "Syrc"], "1df8 0"),
  (["Syrc"], "1dfa 0"),
  (["Latn", "Mong", "Phag"], "202f 0"),
  (["Adlm", "Arab"], "204f 0"),
  (["Cari", "Geor", "Glag", "Hung", "Lyci", "Orkh"], "205a 0"),
  (["Cari", "Grek", "Hung", "Mero"], "205d 0"),
  (["Deva", "Gran", "Latn"], "20f0 0"),
  (["Copt", "Latn"], "2e17 0"),
  (["Avst", "Orkh"], "2e30 0"),
  (["Avst", "Cari", "Geor", "Hung", "Kthi", "Lydi", "Samr"], "2e31 0"),
  (["Dupl"], "2e3c 0 18e63 3"),
  (["Adlm", "Arab", "Hung"], "2e41 0"),
  (["Hani", "Tang"], "2ff0 f 1ef 0"),
  (["Bopo", "Hang", "Hani", "Hira", "Kana", "Mong", "Yiii"], "3001 0"),
  (["Bopo", "Hang", "Hani", "Hira", "Kana", "Mong", "Phag", "Yiii"], "3002 0"),
  (["Bopo", "Hang", "Hani", "Hira", "Kana"], "3003 0 f 0 8 3 10 0 6 0 ce0d 1"),
  (["Hani"], "3006 0 37 1 150 f 20 25 3a 27 38 30 f b 33 0 58 18 a 4 60 1e 19f61 11 1ede 1"),
  (["Bopo", "Hang", "Hani", "Hira", "Kana", "Mong", "Tibt", "Yiii"], "3008 1"),
  (["Bopo", "Hang", "Hani", "Hira", "Kana", "Lisu", "Mong", "Tibt", "Yiii"], "300a 1"),
  (["Bopo", "Hang", "Hani", "Hira", "Kana", "Yiii"], "300c 5 2 7 df 0 ce65 4"),
  (["Bopo", "Hani"], "302a 3"),
  (["Hira", "Kana"], "3031 4 63 3 3 0 5b 0 ce73 0 2d 1"),
  (["Hani", "Hira", "Kana"], "303c 1"),
  (["Hani", "Latn"], "a700 7"),
  (["Deva", "Dogr", "Gujr", "Guru", "Khoj", "Knda", "Kthi", "Mahj", "Mlym", "Modi", "Nand", "Shrd",
    "Sind", "Takr", "Tirh", "Tutg"],
    "a830 2"),
  (["Deva", "Dogr", "Gujr", "Guru", "Khoj", "Knda", "Kthi", "Mahj", "Modi", "Nand", "Shrd", "Sind",
    "Takr", "Tirh", "Tutg"],
    "a833 2"),
  (["Deva", "Dogr", "Gujr", "Guru", "Khoj", "Kthi", "Mahj", "Modi", "Sind", "Takr", "Tirh"],
    "a836 1 1 0"),
  (["Deva", "Dogr", "Gujr", "Guru", "Khoj", "Kthi", "Mahj", "Modi", "Shrd", "Sind", "Takr", "Tirh"],
    "a838 0"),
  (["Beng", "Deva", "Tutg"], "a8f1 0"),
  (["Deva", "Taml"], "a8f3 0"),
  (["Kali", "Latn", "Mymr"], "a92e 0"),
  (["Bugi", "Java"], "a9cf 0"),
  (["Arab", "Nkoo"], "fd3e 1"),
  (["Arab", "Thaa"], "fdf2 0 a 0"),
  (["Cpmn", "Cprt", "Linb"], "10100 1"),
  (["Cprt", "Linb"], "10102 0 34 8"),
  (["Cprt", "Lina", "Linb"], "10107 2c"),
  (["Arab", "Copt"], "102e0 1b"),
  (["Mani", "Ougr"], "10af2 0")]

end Lector.Unicode
