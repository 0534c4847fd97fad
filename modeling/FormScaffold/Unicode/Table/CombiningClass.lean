/-!
# Combining classes

Each word is the length of a run in hexadecimal digits, a colon, and the
canonical combining class of its characters in hexadecimal digits.  Characters
that no domain name can hold are counted to their neighbours.
-/

namespace FormScaffold.Unicode.Table

/-- The combining classes of all characters, from the first on. -/
def combiningClasses : List String :=
  [ "300:0 15:e6 1:e8 4:dc 1:e8 1:d8 5:dc 2:ca 4:dc 2:ca b:dc 5:1 4:dc a:e6 3:dc 3:e6 3:dc 3:e6",
    "4:dc 1:e6 1:e8 2:dc 1:e6 1:e9 2:ea 1:e9 2:ea 1:e9 e:e6 112:0 5:e6 109:0 1:dc 4:e6 1:dc 3:e6",
    "1:de 1:dc 6:e6 6:dc 2:e6 1:dc 2:e6 1:de 1:e4 1:e6 1:a 1:b 1:c 1:d 1:e 1:f 1:10 1:11 1:12",
    "2:13 1:14 1:15 1:16 1:0 1:17 1:0 1:18 1:19 1:0 1:e6 1:dc 1:0 9:12 40:0 8:e6 1:1e 1:1f 1:20",
    "30:0 1:1b 1:1c 1:1d 1:1e 1:1f 1:20 1:21 1:22 2:e6 2:dc 5:e6 1:dc 2:e6 1:dc 10:0 1:23 65:0",
    "8:e6 1:0 4:e6 1:dc 1:e6 2:0 2:e6 1:0 1:dc 2:e6 1:dc 23:0 1:24 1e:0 1:e6 1:dc 2:e6 1:dc 2:e6",
    "3:dc 1:e6 2:dc 1:e6 1:dc 3:e6 1:dc 1:e6 1:dc 1:e6 1:dc 1:e6 1:dc 4:e6 9e:0 7:e6 1:dc 1:e6",
    "9:0 1:dc 18:0 4:e6 1:0 9:e6 1:0 3:e6 1:0 7:e6 29:0 5:dc 39:0 2:e6 3:dc 4:e6 2a:0 5:e6 5:dc",
    "f:e6 1:dc 2:e6 1:dc 2:e6 1:dc 3:e6 3:dc 1:1b 1:1c 1:1d 3:e6 1:dc 2:e6 2:dc 5:e6 3c:0 1:7",
    "10:0 1:9 3:0 1:e6 1:dc 2:e6 67:0 1:7 10:0 1:9 30:0 3:e6 3b:0 2:7 f:0 4:9 6b:0 1:7 10:0 3:9",
    "6c:0 1:7 10:0 8:9 78:0 3:9 6c:0 1:7 10:0 8:9 1:54 2:5b 64:0 1:7 10:0 8:9 66:0 2:9 10:0 1:9",
    "7c:0 5:9 69:0 2:67 5:9 9:0 4:6b 6c:0 2:76 1:9 d:0 4:7a 4c:0 2:dc 1b:0 1:dc 1:0 1:dc 1:0 1:d8",
    "37:0 1:81 2:82 6:84 4:82 2:0 2:82 2:e6 1:9 1:0 2:e6 3e:0 1:dc 70:0 1:7 1:0 2:9 52:0 1:dc",
    "2cf:0 3:e6 3b4:0 b:9 15:0 1:9 9d:0 1:9 a:0 3:e6 c9:0 1:e4 8f:0 1:de 1:e6 5:dc d7:0 1:e6 1:dc",
    "47:0 1:9 14:0 a:e6 1:dc 30:0 5:e6 6:dc 2:e6 1:dc 1:0 2:dc 2:e6 2:dc 5:e6 1:dc 12:e6 3:dc",
    "6:e6 1:dc 4:e6 15:ea 34:0 1:7 f:0 1:9 26:0 1:e6 1:dc 7:e6 36:0 2:9 3a:0 1:7 b:0 a:9 3b:0 4:7",
    "95:0 3:e6 1:0 1:1 5:dc 2:e6 4:dc 1:e6 1:0 7:1 4:0 1:dc 6:0 1:e6 3:0 2:e6 c6:0 2:e6 1:dc 7:e6",
    "1:dc 2:e6 1:ea 1:d6 1:dc 1:ca 25:e6 1:e8 2:e4 1:dc 1:da 1:e6 1:e9 1:dc 1:e6 2:dc 2cf:0 2:e6",
    "2:1 4:e6 3:1 2:e6 4:0 1:e6 3:0 2:1 1:e6 1:dc 1:e6 2:1 4:dc 14:e6 beb:0 4:e6 8c:0 1:9 60:0",
    "20:e6 22a:0 1:da 1:e4 1:e8 1:de 2:e0 69:0 4:8 75d2:0 1:e6 4:0 a:e6 20:0 2:e6 50:0 2:e6 114:0",
    "1:9 25:0 4:9 94:0 1:9 1b:0 12:e6 39:0 3:dc 25:0 c:9 54:0 1:7 c:0 1:9 ef:0 1:e6 1:0 2:e6 1:dc",
    "2:0 2:e6 5:0 2:e6 1:0 1:e6 34:0 b:9 ec:0 3:9 4f2e:0 94:1a 26e:0 7:e6 7:dc 17:e6 3b8:0 83:dc",
    "60:0 1:dc 95:0 a:e6 68d:0 1:dc 1:0 1:e6 28:0 1:e6 1:1 5:dc 1:9 a5:0 1:e6 5:dc 239:0 c:e6",
    "39:0 5:e6 13d:0 2:e6 4d:0 2:dc 1:0 3:dc 46:0 2:dc 3:e6 1:dc 1:e6 4:dc 31:0 1:e6 1:dc 1:e6",
    "1:dc c0:0 1:9 29:0 1:9 e:0 1:9 39:0 1:9 1:7 45:0 3:e6 30:0 3:9 3d:0 1:7 4c:0 1:9 9:0 1:7",
    "6a:0 1:9 1:7 b2:0 1:7 6:9 4b:0 2:7 10:0 3:9 16:0 1a:e6 4e:0 3:9 71:0 1:9 3:0 1:7 17:0 1:e6",
    "63:0 1:9 1:7 fb:0 1:9 1:7 7e:0 1:9 76:0 1:9 1:7 73:0 5:9 109:0 1:9 1:7 102:0 2:9 4:0 1:7",
    "9c:0 1:9 53:0 1:9 12:0 9:9 49:0 1:9 1a5:0 1:9 102:0 1:7 1:0 2:9 51:0 1:9 1a9:0 2:9 41ec:0",
    "1:9 9c0:0 5:1 3b:0 7:e6 4b9:0 2:6 4cac:0 1:1 14c6:0 2:d8 3:1 3:0 1:e2 d:d8 8:dc 2:0 5:e6",
    "2:dc 1e:0 4:e6 94:0 3:e6 dbb:0 100:e6 30:0 7:e6 177:0 12:e6 2c:0 4:e6 1fc:0 2:e8 1:dc 1:e6",
    "fe:0 1:e6 1:dc f3:0 1:e6 2:0 1:e6 7:0 2:e6 5:0 9:e6 1d2:0 52:dc 22:0 6:e6 1:7" ]

end FormScaffold.Unicode.Table
