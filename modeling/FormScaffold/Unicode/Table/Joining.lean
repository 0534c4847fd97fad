/-!
# Joining types

Each word is the length of a run in hexadecimal digits, a colon, and the joining
type of its characters: `L` left, `R` right, `D` dual, `T` transparent, `U` any
other.  Characters that no domain name can hold are counted to their
neighbours.
-/

namespace FormScaffold.Unicode.Table

/-- The joining types of all characters, from the first on. -/
def joiningTypes : List String :=
  [ "300:U 71:T 112:U 8:T 106:U 2d:T 1:U 1:T 1:U 2:T 1:U 2:T 1:U 9:T 40:U b:T 5:U 1:D 1:U 4:R 1:D",
    "1:R 1:D 1:R 5:D 4:R d:D 1:U 7:D 1:R 2:D 15:T e:U 2:D 1:T 3:R 5:U f:D 12:R 26:D 1:R 2:D 9:R",
    "1:D 1:R 1:D 1:R 2:D 2:R 1:U 1:R 8:T 1:U 6:T 2:U 2:T 1:U 4:T 2:R a:U 3:D 2:U 1:D 10:U 1:R 1:T",
    "3:D 5:R 4:D 1:R 9:D 1:R 1:D 1:R 1:D 1:R 2:D 1:R 1d:T 1:R b:D 3:R f:D 2:R 4:D 1:R 1:D 2:R 3:D",
    "2:R 6:D 26:U b:T 19:U 21:D 9:T 9:U 1:T 18:U 4:T 1:U 9:T 1:U 3:T 1:U 7:T 10:U 1:R 5:D 2:R 1:D",
    "1:R a:D 1:R 1:D 3:R 5:T 2:U 1:D 1:U 4:D 1:U 1:R 1:D 1a:R 3:U 1:D 2:U 5:D 1:R 8:D 9:T a:D 3:R",
    "1:U 1:R 2:D 2:R 6:D 1:R f:D 1:U 39:T 37:U 1:T 1:U 1:T 4:U 8:T 4:U 1:T 3:U f:T 2:U 2:T 1d:U",
    "1:T 3a:U 1:T 4:U 6:T 6:U 1:T 14:U 4:T 18:U 5:T 39:U 2:T 3:U 1b:T 14:U 2:T 3:U 1:T b:U 2:T",
    "39:U 1:T 4:U 8:T 4:U 3:T 12:U 4:T 14:U 8:T 3a:U 1:T 2:U 1:T 1:U 6:T 6:U a:T b:U 4:T 1c:U 1:T",
    "3d:U 1:T c:U 3:T 30:U 1:T 3:U 1:T 37:U 1:T 1:U 3:T 5:U 12:T a:U 4:T 1b:U 1:T 3a:U 1:T 2:U",
    "1:T 6:U 1:T 5:U 9:T d:U 4:T 1a:U 2:T 39:U 2:T 4:U 5:T 7:U 1:T 14:U 4:T 1b:U 1:T 48:U 5:T 3:U",
    "6:T 59:U 1:T 2:U b:T 8:U 8:T 62:U 1:T 2:U 9:T b:U 8:T 48:U 2:T 1b:U 1:T 1:U 1:T 1:U 1:T 37:U",
    "e:T 1:U 5:T 1:U 2:T 5:U 31:T 8:U 1:T 66:U 4:T 1:U 6:T 1:U 2:T 2:U 2:T 19:U 2:T 4:U 3:T 10:U",
    "4:T d:U 1:T 2:U 2:T 6:U 1:T f:U 1:T 2bf:U 3:T 3b2:U 3:T 1d:U 2:T 1e:U e:T 12:U e:T 37:U 7:T",
    "8:U 1:T 2:U b:T 9:U 3:T 27:U 1:D 18:U 60:D 5:U 2:T 22:D 1:T 6:D 70:U 3:T 4:U 2:T 9:U 1:T 6:U",
    "7:T d7:U 2:T 2:U 3:T 38:U 1:T 1:U 9:T 1:U 1:T 2:U 8:T 6:U d:T 30:U 54:T 30:U 1:T 1:U 5:T 1:U",
    "1:T 5:U 1:T 28:U 9:T c:U 2:T 20:U 4:T 2:U 2:T 1:U 3:T 38:U 1:T 1:U 2:T 3:U 1:T 1:U 3:T 3a:U",
    "8:T 2:U 5:T 95:U 3:T 1:U d:T 1:U 7:T 4:U 1:T 6:U 1:T 3:U 2:T c6:U 41:T 2cf:U 34:T beb:U 4:T",
    "8c:U 1:T 60:U 20:T 22a:U 4:T 6b:U 4:T 75d2:U 4:T 1:U a:T 20:U 2:T 50:U 2:T 110:U 1:T 3:U 1:T",
    "4:U 1:T 19:U 2:T 5:U 4:T 10:U 32:D 1:L 51:U a:T 12:U 12:T d:U 1:T 26:U 8:T 19:U b:T 2e:U 3:T",
    "30:U 1:T 2:U 4:T 2:U 2:T 27:U 1:T 43:U 6:T 2:U 2:T 2:U b:T 3:U 1:T 8:U 1:T 2f:U 1:T 33:U 1:T",
    "1:U 3:T 2:U 2:T 5:U 2:T 1:U 1:T 2a:U 2:T 8:U b:T e4:U 1:T 2:U 1:T 4:U 3:T 4f2e:U 94:T 26e:U",
    "25:T 3b8:U 83:T 60:U 1:T 95:U a:T 681:U f:T 28:U 8:T 80:U 5:D 1:R 1:U 1:R 1:U 2:R 2:U 1:L",
    "5:R 4:D 1:L 5:D 1:R 3:D 1:R 2:U 1:R 6:T 4:D 1:R 90:U 1:D 1:R 1:D 3:R 3:D 1:R 2:D 1:R 1:D 2:R",
    "1:D 8:R 10:U 4:R 2:D 151:U 1:L 21:D 1:R 1:D c:T 39:U 5:T 13d:U 2:T 15:U 1:R 2:D 1:U a:D 2a:U",
    "6:T 30:U 3:D 1:R 11:D 1:U b:T 3:D 1:R 1b:U 4:D 2:R c:D 4:T 2a:U 1:D 1:U 2:D 3:R 1:U 1:D 2:R",
    "2:D 1:R 2:D 1:U 1:D 2:R 1:D 4:U 1:R 1:D 15:L 21:U 1:T 36:U f:T 29:U 1:T 2:U 2:T a:U 3:T 31:U",
    "4:T 2:U 2:T 7:U e:T 30:U 3:T 24:U 5:T 1:U 9:T 3d:U 1:T c:U 2:T 34:U 9:T a:U 4:T 2:U 1:T 5f:U",
    "3:T 2:U 1:T 1:U 2:T 6:U 1:T 2:U 3f:T 5f:U 1:T 3:U d:T 10:U 2:T 39:U 2:T 3:U 1:T 25:U 1a:T",
    "3b:U 7:T c:U 1:T 1:U 1:T 1:U 1:T e:U 1f:T 38:U 8:T 2:U 3:T 1:U 1:T 17:U 1:T 54:U 6:T 1:U 1:T",
    "4:U 2:T 1:U 2:T ee:U 6:T 4:U 2:T 1:U 2:T 1b:U 24:T 33:U 8:T 2:U 1:T 1:U 2:T 6a:U 1:T 1:U 1:T",
    "2:U 6:T 1:U 1:T 65:U 1:T 1:U 1:T 2:U 4:T 1:U 9:T ff:U 9:T 1:U 2:T 100:U 2:T 1:U 1:T 4:U 1:T",
    "90:U 8:T 4:U 1:T 20:U a:T 28:U 6:T 2:U 4:T 8:U 9:T 1:U 6:T 2:U 3:T 2e:U d:T 1:U 2:T c6:U 1:T",
    "1:U 3:T 1:U 1:T c9:U e:T 1:U 1:T 52:U 17:T 1:U 7:T 1:U 2:T 1:U 4b:T 31:U 15:T 1:U 9:T 40:U",
    "3:T 2:U 1:T 1:U 1:T 15b:U 2:T b:U 2:T 34:U 8:T 2:U 1:T 1:U 1:T 17:U 56:T 1490:U 1:T 6:U 19:T",
    "2cbe:U c:T 3:U 3:T 9c0:U 5:T 3b:U 7:T 418:U 1:T 3f:U 4:T 51:U c:T 4cad:U 2:T 1261:U 50:T",
    "217:U 3:T 11:U 8:T 2:U 7:T 1e:U 4:T 94:U 3:T 7bb:U 37:T 4:U 32:T 8:U 1:T e:U 1:T 16:U 465:T",
    "100:U 100:T 30:U 7:T 177:U 12:T 2c:U 4:T 1fc:U 4:T fe:U 2:T f3:U 1:T 2:U 1:T 7:U 2:T 5:U 9:T",
    "1d2:U 52:T 22:D c:T" ]

end FormScaffold.Unicode.Table
