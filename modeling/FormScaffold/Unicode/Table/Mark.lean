/-!
# Marks

Each word is the length of a run in hexadecimal digits, a colon, and `M` for
characters whose general category is a mark, `O` for others.  Characters that no
domain name can hold are counted to their neighbours.
-/

namespace FormScaffold.Unicode.Table

/-- The marks among all characters, from the first on. -/
def marks : List String :=
  [ "300:O 71:M 112:O 8:M 106:O 2d:M 1:O 1:M 1:O 2:M 1:O 2:M 1:O 9:M 40:O b:M 30:O 15:M 10:O 1:M",
    "65:O 8:M 1:O 6:M 2:O 2:M 1:O 4:M 23:O 1:M 1e:O 1d:M 59:O b:M 3a:O 9:M 9:O 1:M 18:O 4:M 1:O",
    "9:M 1:O 3:M 1:O 7:M 29:O 5:M 39:O 9:M 2a:O 3a:M 36:O 3:M 1:O 12:M 1:O f:M 2:O 2:M 1d:O 4:M",
    "37:O 1:M 1:O 10:M 9:O 9:M 2:O 4:M 18:O 7:M 37:O 20:M 14:O 2:M 3:O 1:M b:O 4:M 37:O 1:M 1:O",
    "12:M 12:O 4:M 14:O b:M 37:O 1:M 1:O 21:M 3:O 4:M 1c:O 1:M 3b:O 12:M 7:O f:M 1a:O 5:M 37:O",
    "1:M 1:O 1a:M a:O 4:M 1b:O 3:M 38:O 1:M 1:O 1e:M 6:O 4:M d:O 11:M 37:O 2:M 1:O 10:M 9:O 1:M",
    "a:O 4:M 1b:O 4:M 45:O 1c:M c:O 2:M 3d:O 1:M 2:O b:M 8:O 8:M 62:O 1:M 2:O 9:M b:O 8:M 48:O",
    "2:M 1b:O 1:M 1:O 1:M 1:O 1:M 4:O 2:M 31:O 14:M 1:O 2:M 5:O 31:M 8:O 1:M 64:O 14:M 17:O 4:M",
    "4:O 3:M 1:O 3:M 2:O 7:M 3:O 4:M d:O c:M 1:O 1:M a:O 4:M 2bf:O 3:M 3b2:O d:M 13:O 3:M 1d:O",
    "e:M 12:O e:M 36:O 1e:M 9:O 3:M a5:O 2:M 22:O 1:M 76:O 20:M d7:O 7:M 37:O 2b:M 30:O 55:M 2f:O",
    "11:M 26:O 9:M c:O 3:M 1e:O d:M 38:O 16:M 28:O 17:M 95:O 3:M 1:O 15:M 4:O 1:M 6:O 1:M 2:O 3:M",
    "c6:O 41:M 2cf:O 34:M beb:O 4:M 8c:O 1:M 60:O 20:M 22a:O 6:M 69:O 4:M 75d2:O 4:M 1:O a:M 20:O",
    "2:M 50:O 2:M 110:O 1:M 3:O 1:M 4:O 1:M 17:O 5:M 4:O 4:M 50:O 2:M 32:O 1a:M 12:O 12:M d:O 1:M",
    "26:O 8:M 19:O 18:M 21:O 4:M 2f:O e:M 24:O 1:M 43:O 17:M 3:O 1:M 8:O 4:M 2b:O 3:M 32:O 1:M",
    "1:O 3:M 2:O 2:M 5:O 2:M 1:O 1:M 29:O 5:M 5:O c:M e2:O 8:M 1:O 4:M 4f2e:O 94:M 26e:O 25:M",
    "3b8:O 83:M 60:O 1:M 95:O a:M 681:O f:M 28:O 8:M a5:O 6:M 239:O c:M 39:O 5:M 13d:O 2:M 4d:O",
    "6:M 46:O b:M 31:O 4:M 7a:O 3:M 35:O f:M 29:O 1:M 2:O 2:M a:O 4:M 2d:O b:M 7:O e:M 30:O 3:M",
    "24:O f:M f:O 2:M 2c:O 1:M c:O 3:M 30:O e:M 8:O 4:M 1:O 2:M 5c:O c:M 6:O 1:M 2:O 3f:M 5f:O",
    "11:M 10:O 5:M 36:O 2:M 1:O 12:M 7:O 6:M 5:O 1e:M 38:O 19:M 1:O 1:M e:O 1f:M 35:O 12:M 17:O",
    "1:M 51:O 14:M eb:O 12:M 1b:O 24:M 30:O 11:M 6a:O d:M 65:O 13:M fc:O f:M f5:O f:M 1:O 1:M 1:O",
    "2:M 8d:O 10:M 3:O 1c:M 1:O a:M 28:O 7:M 1:O 4:M 8:O 9:M 1:O b:M 2e:O 10:M c6:O 60:M 6f:O",
    "11:M 52:O 6e:M 31:O 15:M 1:O 9:M 3a:O e:M 15b:O 4:M 9:O 2:M 1:O 1:M 30:O f:M 17:O 56:M",
    "1490:O 1:M 6:O 19:M 2cbe:O 12:M 9c0:O 5:M 3b:O 7:M 418:O 1:M 1:O 42:M 51:O e:M 4cab:O 2:M",
    "1261:O 50:M 215:O 5:M 3:O 16:M 2:O 7:M 1e:O 4:M 94:O 3:M 7bb:O 37:M 4:O 32:M 8:O 1:M e:O 1:M",
    "16:O 465:M 100:O 100:M 30:O 7:M 177:O 12:M 2c:O 4:M 1fc:O 4:M fe:O 2:M f3:O 1:M 2:O 1:M 7:O",
    "2:M 5:O 9:M 1d2:O 52:M 22:O 7:M" ]

end FormScaffold.Unicode.Table
