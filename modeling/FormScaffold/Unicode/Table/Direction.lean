/-!
# Directions of writing

Each word is the length of a run in hexadecimal digits, a colon, and the
direction of its characters: `L` left to right, `R` right to left, `E` European
digits, `A` Arabic digits, `M` marks, `N` any other.  Characters that no domain
name can hold are counted to their neighbours.
-/

namespace FormScaffold.Unicode.Table

/-- The directions of all characters, from the first on. -/
def directions : List String :=
  [ "30:N a:E 27:N 1a:L 64:N 18:L 1:N 1c1:L 2:N 7:L e:N 2:L 1c:N 1:L 11:N 71:M 4:L 2:N 7f:L 2:N",
    "8b:L 8:M ff:L 7:N 2d:M 1:R 1:M 1:R 2:M 1:R 2:M 1:R 9:M 36:R 2:N 1:R 2:N 1:R 1:N 1:R 2:N b:M",
    "30:R 15:M a:A 1:N 2:A 3:R 1:M 65:R 8:M 1:N 6:M 2:R 2:M 1:N 4:M 2:R a:E 17:R 1:M 1e:R 1d:M",
    "59:R b:M 3a:R 9:M 2:R 4:N 3:R 1:M 18:R 4:M 1:R 9:M 1:R 3:M 1:R 7:M 29:R 5:M 39:R 9:M 2a:R",
    "39:M 37:L 1:M 1:L 1:M 4:L 8:M 4:L 1:M 3:L f:M 2:L 2:M 1d:L 1:M 3a:L 1:M 4:L 6:M 6:L 1:M 14:L",
    "4:M c:L 2:N 7:L 1:N 2:L 5:M 39:L 2:M 3:L 1b:M 14:L 2:M 3:L 1:M b:L 2:M 39:L 1:M 4:L 8:M 4:L",
    "3:M 12:L 4:M b:L 8:N 1:L 8:M 3a:L 1:M 2:L 1:M 1:L 6:M 6:L a:M b:L 4:M 1c:L 1:M 3d:L 1:M c:L",
    "3:M 23:L d:N 1:M 3:L 1:M 37:L 1:M 1:L 3:M 5:L 12:M a:L 4:M 12:L 7:N 2:L 1:M 3a:L 1:M f:L 9:M",
    "d:L 4:M 1a:L 2:M 39:L 2:M 4:L 5:M 7:L 1:M 14:L 4:M 1b:L 1:M 48:L 5:M 3:L 6:M 59:L 1:M 2:L",
    "b:M 1:N 7:L 8:M 62:L 1:M 2:L 9:M b:L 8:M 48:L 2:M 1b:L 1:M 1:L 1:M 1:L 1:M 4:N 33:L e:M 1:L",
    "5:M 1:L 2:M 5:L 31:M 8:L 1:M 66:L 4:M 1:L 6:M 1:L 2:M 2:L 2:M 19:L 2:M 4:L 3:M 10:L 4:M d:L",
    "1:M 2:L 2:M 6:L 1:M f:L 1:M 2bf:L 3:M 30:L 10:N 60:L 1:N 29a:L 5:N 72:L 3:M 1d:L 2:M 1e:L",
    "e:M 12:L e:M 37:L 7:M 8:L 1:M 2:L b:M 7:L 1:N 1:L 3:M 10:L 20:N 75:L 2:M 22:L 1:M 76:L 3:M",
    "4:L 2:M 9:L 1:M 6:L 7:M 6:N 98:L 22:N 17:L 2:M 2:L 3:M 38:L 1:M 1:L 9:M 1:L 1:M 2:L 8:M 6:L",
    "d:M 30:L 54:M 30:L 1:M 1:L 5:M 1:L 1:M 5:L 1:M 28:L 9:M c:L 2:M 20:L 4:M 2:L 2:M 1:L 3:M",
    "38:L 1:M 1:L 2:M 3:L 1:M 1:L 3:M 3a:L 8:M 2:L 5:M 95:L 3:M 1:L d:M 1:L 7:M 4:L 1:M 6:L 1:M",
    "3:L 2:M c6:L 41:M 20b:L c4:N 34:M 4a:N 3c:L 1ac:N 45:L 1a:N 1:L 316:N 1:L 153:N 100:L 330:N",
    "b5:L 7:N 3:L 4:M 6:L 7:N 7f:L 1:M 60:L 20:M 205:N 3:L 19:N 9:L 4:M 2:L 1:N 6:L 4:N 2:L 4:N",
    "58:L 4:M 3:L 1:N 5a:L 1:N c4:L 30:N 1bd0:L 40:N 5690:L 40:N 13d:L 3:N 5f:L 4:M 1:N a:M 3:N",
    "1d:L 2:M 50:L 2:M e:L 23:N 65:L 1:N 79:L 1:M 3:L 1:M 4:L 1:M 19:L 2:M 1:L 4:N 4:M 8:L 8:N",
    "34:L c:N 44:L a:M 12:L 12:M d:L 1:M 26:L 8:M 19:L b:M 2e:L 3:M 30:L 1:M 2:L 4:M 2:L 2:M 27:L",
    "1:M 43:L 6:M 2:L 2:M 2:L b:M 3:L 1:M 8:L 1:M 2f:L 1:M 33:L 1:M 1:L 3:M 2:L 2:M 5:L 2:M 1:L",
    "1:M 2a:L 2:M 8:L b:M 69:L 56:N 25:L 1:M 2:L 1:M 4:L 3:M 4f2e:L 94:M 11:R 25d:N 25:M 2e:N",
    "18d:R 101:L 1:N 3e:L 4d:N 3:L 40:N 2d:L 83:M 60:L 1:M 1f:E 76:L a:M 480:L 11f:R 1:N e1:R f:M",
    "28:R 8:M a5:R 6:M 4e:R 7:N 1e4:R c:M 1a:A 1f:R 5:M 1:N f1:R 20:A 2b:R 2:M 23:R 2a:N 6:M 46:R",
    "b:M 31:R 4:M 7a:R 1:L 1:M 36:L f:M b:L 14:N a:L 1:M 2:L 2:M a:L 3:M 31:L 4:M 2:L 2:M 7:L e:M",
    "30:L 3:M 24:L 5:M 1:L 9:M 3d:L 1:M c:L 2:M 34:L 9:M a:L 4:M 2:L 1:M 5f:L 3:M 2:L 1:M 1:L 2:M",
    "6:L 1:M 2:L 3f:M 5f:L 1:M 3:L d:M 10:L 2:M 39:L 2:M 3:L 1:M 25:L 1a:M 3b:L 7:M c:L 1:M 1:L",
    "1:M 1:L 1:M e:L 1f:M 38:L 8:M 2:L 3:M 1:L 1:M 17:L 1:M 54:L 6:M 1:L 1:M 4:L 2:M 1:L 2:M ee:L",
    "6:M 4:L 2:M 1:L 2:M 1b:L 24:M 33:L 8:M 2:L 1:M 1:L 2:M 1f:L 20:N 2b:L 1:M 1:L 1:M 2:L 6:M",
    "1:L 1:M 65:L 1:M 1:L 1:M 2:L 4:M 1:L 9:M ff:L 9:M 1:L 2:M 100:L 2:M 1:L 1:M 4:L 1:M 90:L 8:M",
    "4:L 1:M 20:L 6:M 2:L 2:M 28:L 6:M 2:L 4:M 8:L 9:M 1:L 6:M 2:L 3:M 2e:L d:M 1:L 2:M c6:L 1:M",
    "1:L 3:M 1:L 1:M c9:L e:M 54:L 17:M 1:L 7:M 1:L 2:M 1:L 4b:M 31:L 15:M 1:L 9:M 40:L 3:M 2:L",
    "1:M 1:L 1:M 15b:L 2:M b:L 2:M 34:L 8:M 2:L 1:M 1:L 1:M 17:L 56:M 25:L 2a:N 1441:L 1:M 6:L",
    "19:M 2cbe:L c:M 3:L 3:M 9c0:L 5:M 3b:L 7:M 418:L 1:M 3f:L 4:M 4f:L 1:N 1:L c:M 4cad:L 2:M",
    "f61:L 300:N 50:M 217:L 3:M 11:L 8:M 2:L 7:M 1e:L 4:M 3b:L 59:N 3:M 7b:N 40:L 60:N 6a0:L 37:M",
    "4:L 32:M 8:L 1:M e:L 1:M 16:L 465:M 100:L 100:M 30:L 7:M 177:L 12:M 2c:L 4:M f:L 1d1:N 1c:L",
    "4:M fe:L 2:M f3:L 1:M 2:L 1:M 7:L 2:M 5:L 9:M 102:L d0:R 52:M 22:R 7:M 5a5:R 260:N 1d:L 3:N",
    "3d:L 39:N 7a:L da0:N" ]

end FormScaffold.Unicode.Table
