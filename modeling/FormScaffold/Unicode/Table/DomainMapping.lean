/-!
# What becomes of characters in domain names

Each word is the length of a run in hexadecimal digits, a colon, and what
becomes of its characters: `V` keeps them, `I` drops them, `X` refuses them, `M`
writes the characters whose codes follow, `S` moves them on by a distance, and
`P` takes them in pairs, of which the first is written as the second.
-/

namespace FormScaffold.Unicode.Table

/-- The rules for all characters, from the first on. -/
def domainMapping : List String :=
  [ "41:V 1a:S+20 25:V 20:X 1:M20 7:V 1:M20.308 1:V 1:M61 2:V 1:I 1:V 1:M20.304 2:V 2:S-80",
    "1:M20.301 1:M3bc 2:V 1:M20.327 1:M31 1:M6f 1:V 1:M31.2044.34 1:M31.2044.32 1:M33.2044.34 1:V",
    "17:S+20 1:V 7:S+20 21:V 30:P 1:M69.307 1:V 2:M69.6a 4:P 1:V 6:P 2:M6c.b7 8:P 1:M2bc.6e 2e:P",
    "1:Mff 6:P 1:M73 1:V 1:M253 4:P 1:M254 1:M188 1:V 2:S+cd 1:M18c 2:V 1:M1dd 1:M259 1:M25b",
    "1:M192 1:V 1:M260 1:M263 1:V 1:M269 1:M268 1:M199 3:V 1:M26f 1:M272 1:V 1:M275 6:P 1:M280",
    "1:M1a8 1:V 1:M283 2:V 1:M1ad 1:V 1:M288 1:M1b0 1:V 2:S+d9 4:P 1:M292 1:M1b9 3:V 1:M1bd 7:V",
    "3:M64.17e 3:M6c.6a 3:M6e.6a 10:P 1:V 12:P 1:V 3:M64.7a 1:M1f5 1:V 1:M195 1:M1bf 28:P 1:M19e",
    "1:V 12:P 6:V 1:M2c65 1:M23c 1:V 1:M19a 1:M2c66 2:V 1:M242 1:V 1:M180 1:M289 1:M28c a:P 60:V",
    "1:M68 1:M266 1:M6a 1:M72 1:M279 1:M27b 1:M281 1:M77 1:M79 1f:V 1:M20.306 1:M20.307 1:M20.30a",
    "1:M20.328 1:M20.303 1:M20.30b 2:V 1:M263 1:M6c 1:M73 1:M78 1:M295 5b:V 2:S-40 1:V 1:M313",
    "1:M308.301 1:M3b9 9:V 1:I 20:V 4:P 1:M2b9 1:V 1:M377 1:V 2:X 1:M20.3b9 3:V 1:M3b 1:M3f3 4:X",
    "1:M20.301 1:M20.308.301 1:M3ac 1:Mb7 3:S+25 1:X 1:M3cc 1:X 2:S+3f 1:V 11:S+20 1:X 9:S+20",
    "23:V 1:M3d7 1:M3b2 1:M3b8 1:M3c5 1:M3cd 1:M3cb 1:M3c6 1:M3c0 1:V 18:P 1:M3ba 1:M3c1 1:M3c3",
    "1:V 1:M3b8 1:M3b5 1:V 1:M3f8 1:V 1:M3c3 1:M3fb 2:V 3:S-82 10:S+50 20:S+20 30:V 22:P 8:V 36:P",
    "1:M4cf e:P 1:V 60:P 1:X 26:S+30 2:X 2e:V 1:M565.582 3:V 2:X 3:V 1:X 37:V 8:X 1b:V 4:X 6:V",
    "11:X 16:V 1:X 58:V 1:M627.674 1:M648.674 1:M6c7.674 1:M64a.674 64:V 1:X 30:V 2:X 3b:V 2:X",
    "65:V e:X 3b:V 2:X 31:V 2:X f:V 1:X 1c:V 2:X 1:V 1:X b:V 5:X 20:V 7:X 4b:V 1:X 75:V",
    "1:M915.93c 1:M916.93c 1:M917.93c 1:M91c.93c 1:M921.93c 1:M922.93c 1:M92b.93c 1:M92f.93c 24:V",
    "1:X 8:V 2:X 2:V 2:X 16:V 1:X 7:V 1:X 1:V 3:X 4:V 2:X 9:V 2:X 2:V 2:X 4:V 8:X 1:V 4:X",
    "1:M9a1.9bc 1:M9a2.9bc 1:X 1:M9af.9bc 4:V 2:X 19:V 2:X 3:V 1:X 6:V 4:X 2:V 2:X 16:V 1:X 7:V",
    "1:X 1:V 1:Ma32.a3c 1:X 1:V 1:Ma38.a3c 1:X 2:V 2:X 1:V 1:X 5:V 4:X 2:V 2:X 3:V 3:X 1:V 7:X",
    "1:Ma16.a3c 1:Ma17.a3c 1:Ma1c.a3c 1:V 1:X 1:Ma2b.a3c 7:X 11:V a:X 3:V 1:X 9:V 1:X 3:V 1:X",
    "16:V 1:X 7:V 1:X 2:V 1:X 5:V 2:X a:V 1:X 3:V 1:X 3:V 2:X 1:V f:X 4:V 2:X c:V 7:X 7:V 1:X 3:V",
    "1:X 8:V 2:X 2:V 2:X 16:V 1:X 7:V 1:X 2:V 1:X 5:V 2:X 9:V 2:X 2:V 2:X 3:V 7:X 3:V 4:X",
    "1:Mb21.b3c 1:Mb22.b3c 1:X 5:V 2:X 12:V a:X 2:V 1:X 6:V 3:X 3:V 1:X 4:V 3:X 2:V 1:X 1:V 1:X",
    "2:V 3:X 2:V 3:X 3:V 3:X c:V 4:X 5:V 3:X 3:V 1:X 4:V 2:X 1:V 6:X 1:V e:X 15:V 5:X d:V 1:X 3:V",
    "1:X 17:V 1:X 10:V 2:X 9:V 1:X 3:V 1:X 4:V 7:X 2:V 1:X 3:V 1:X 2:V 2:X 4:V 2:X a:V 7:X 16:V",
    "1:X 3:V 1:X 17:V 1:X a:V 1:X 5:V 2:X 9:V 1:X 3:V 1:X 4:V 7:X 2:V 5:X 3:V 1:X 4:V 2:X a:V 1:X",
    "3:V c:X d:V 1:X 3:V 1:X 33:V 1:X 3:V 1:X 6:V 4:X 10:V 2:X 1a:V 1:X 3:V 1:X 12:V 3:X 18:V 1:X",
    "9:V 1:X 1:V 2:X 7:V 3:X 1:V 4:X 6:V 1:X 1:V 1:X 8:V 6:X a:V 2:X 3:V c:X 32:V 1:Me4d.e32 7:V",
    "4:X 1d:V 25:X 2:V 1:X 1:V 1:X 5:V 1:X 18:V 1:X 1:V 1:X c:V 1:Mecd.eb2 a:V 2:X 5:V 1:X 1:V",
    "1:X 7:V 1:X a:V 2:X 1:Meab.e99 1:Meab.ea1 2:V 20:X c:V 1:Mf0b 36:V 1:Mf42.fb7 4:V 1:X 4:V",
    "1:Mf4c.fb7 4:V 1:Mf51.fb7 4:V 1:Mf56.fb7 4:V 1:Mf5b.fb7 c:V 1:Mf40.fb5 3:V 4:X 2:V",
    "1:Mf71.f72 1:V 1:Mf71.f74 1:Mfb2.f80 1:Mfb2.f71.f80 1:Mfb3.f80 1:Mfb3.f71.f80 7:V 1:Mf71.f80",
    "11:V 1:Mf92.fb7 4:V 1:X 4:V 1:Mf9c.fb7 4:V 1:Mfa1.fb7 4:V 1:Mfa6.fb7 4:V 1:Mfab.fb7 c:V",
    "1:Mf90.fb5 3:V 1:X f:V 1:X d:V 25:X a0:V 26:S+1c60 1:X 1:M2d27 5:X 1:M2d2d 2:X 2c:V 1:M10dc",
    "62:V 2:I e8:V 1:X 4:V 2:X 7:V 1:X 1:V 1:X 4:V 2:X 29:V 1:X 4:V 2:X 21:V 1:X 4:V 2:X 7:V 1:X",
    "1:V 1:X 4:V 2:X f:V 1:X 39:V 1:X 4:V 2:X 43:V 2:X 20:V 3:X 1a:V 6:X 56:V 2:X 6:S-8 2:X 280:V",
    "1:X 1c:V 3:X 59:V 7:X 16:V 9:X 18:V 9:X 14:V c:X d:V 1:X 3:V 1:X 2:V c:X 34:V 2:I 28:V 2:X",
    "a:V 6:X a:V 6:X b:V 5:I a:V 6:X 59:V 7:X 2b:V 5:X 46:V a:X 1f:V 1:X c:V 4:X c:V 4:X 1:V 3:X",
    "2a:V 2:X 5:V b:X 2c:V 4:X 1a:V 6:X b:V 3:X 3e:V 2:X 41:V 1:X 1d:V 2:X b:V 6:X a:V 6:X e:V",
    "2:X 2e:V 2:X c:V 14:X 4d:V 1:X a6:V 8:X 3c:V 3:X f:V 3:X 33:V 1:M432 1:M434 1:M43e 2:S-1842",
    "1:M442 1:M44a 1:M463 1:Ma64b 1:M1c8a 1:V 5:X 2b:S-bc0 2:X 3:S-bc0 8:V 8:X 2b:V 5:X 2c:V",
    "1:M61 1:Me6 1:M62 1:V 2:S-1ccc 1:M1dd 8:S-1ccc 1:V 1:M6f 1:M223 1:M70 1:M72 2:S-1ccc 1:M77",
    "1:M61 2:S-1af4 1:M1d02 1:M62 2:S-1ce4 1:M259 2:S-1af0 1:M67 1:V 1:M6b 1:M6d 1:M14b 1:M6f",
    "1:M254 2:S-3e 1:M70 2:S-1ce3 1:M1d1d 1:M26f 1:M76 1:M1d25 3:S-19ab 2:S-199a 1:M69 1:M72",
    "2:S-1cef 2:S-19b4 1:M3c1 2:S-19a3 d:V 1:M43d 22:V 1:M252 1:M63 1:M255 1:Mf0 1:M25c 1:M66",
    "1:M25f 1:M261 1:M265 3:S-1b3c 1:M1d7b 1:M29d 1:M26d 1:M1d85 1:M29f 1:M271 1:M270 4:S-1b3c",
    "1:M278 2:S-1b31 1:M1ab 2:S-1b2d 1:M1d1c 2:S-1b2e 1:M7a 3:S-1b2c 1:M3b8 40:V 96:P 4:V",
    "1:M61.2be 1:M1e61 2:V 1:Mdf 1:V 60:P 8:V 8:S-8 6:V 2:X 6:S-8 2:X 8:V 8:S-8 8:V 8:S-8 6:V 2:X",
    "6:S-8 2:X 8:V 1:X 1:M1f51 1:X 1:M1f53 1:X 1:M1f55 1:X 1:M1f57 8:V 8:S-8 1:V 1:M3ac 1:V",
    "1:M3ad 1:V 1:M3ae 1:V 1:M3af 1:V 1:M3cc 1:V 1:M3cd 1:V 1:M3ce 2:X 1:M1f00.3b9 1:M1f01.3b9",
    "1:M1f02.3b9 1:M1f03.3b9 1:M1f04.3b9 1:M1f05.3b9 1:M1f06.3b9 1:M1f07.3b9 1:M1f00.3b9",
    "1:M1f01.3b9 1:M1f02.3b9 1:M1f03.3b9 1:M1f04.3b9 1:M1f05.3b9 1:M1f06.3b9 1:M1f07.3b9",
    "1:M1f20.3b9 1:M1f21.3b9 1:M1f22.3b9 1:M1f23.3b9 1:M1f24.3b9 1:M1f25.3b9 1:M1f26.3b9",
    "1:M1f27.3b9 1:M1f20.3b9 1:M1f21.3b9 1:M1f22.3b9 1:M1f23.3b9 1:M1f24.3b9 1:M1f25.3b9",
    "1:M1f26.3b9 1:M1f27.3b9 1:M1f60.3b9 1:M1f61.3b9 1:M1f62.3b9 1:M1f63.3b9 1:M1f64.3b9",
    "1:M1f65.3b9 1:M1f66.3b9 1:M1f67.3b9 1:M1f60.3b9 1:M1f61.3b9 1:M1f62.3b9 1:M1f63.3b9",
    "1:M1f64.3b9 1:M1f65.3b9 1:M1f66.3b9 1:M1f67.3b9 2:V 1:M1f70.3b9 1:M3b1.3b9 1:M3ac.3b9 1:X",
    "1:V 1:M1fb6.3b9 2:S-8 1:M1f70 1:M3ac 1:M3b1.3b9 1:M20.313 1:M3b9 1:M20.313 1:M20.342",
    "1:M20.308.342 1:M1f74.3b9 1:M3b7.3b9 1:M3ae.3b9 1:X 1:V 1:M1fc6.3b9 1:M1f72 1:M3ad 1:M1f74",
    "1:M3ae 1:M3b7.3b9 1:M20.313.300 1:M20.313.301 1:M20.313.342 3:V 1:M390 2:X 2:V 2:S-8 1:M1f76",
    "1:M3af 1:X 1:M20.314.300 1:M20.314.301 1:M20.314.342 3:V 1:M3b0 4:V 2:S-8 1:M1f7a 1:M3cd",
    "1:M1fe5 1:M20.308.300 1:M20.308.301 1:M60 2:X 1:M1f7c.3b9 1:M3c9.3b9 1:M3ce.3b9 1:X 1:V",
    "1:M1ff6.3b9 1:M1f78 1:M3cc 1:M1f7c 1:M3ce 1:M3c9.3b9 1:M20.301 1:M20.314 1:X b:M20 1:I 2:V",
    "2:X 1:V 1:M2010 5:V 1:M20.333 c:V 3:X 1:V 7:X 1:M20 3:V 1:M2032.2032 1:M2032.2032.2032 1:V",
    "1:M2035.2035 1:M2035.2035.2035 4:V 1:M21.21 1:V 1:M20.305 8:V 1:M3f.3f 1:M3f.21 1:M21.3f d:V",
    "1:M2032.2032.2032.2032 7:V 1:M20 5:I 5:X 6:I 1:M30 1:M69 2:X 6:S-2040 1:M2b 1:M2212 1:M3d",
    "2:S-2055 1:M6e a:S-2050 1:M2b 1:M2212 1:M3d 2:S-2065 1:X 1:M61 1:M65 1:M6f 1:M78 1:M259",
    "1:M68 4:S-202b 1:M70 2:S-2028 3:X 8:V 1:M72.73 19:V e:X 21:V f:X 1:M61.2f.63 1:M61.2f.73",
    "1:M63 1:Mb0.63 1:V 1:M63.2f.6f 1:M63.2f.75 1:M25b 1:V 1:Mb0.66 2:S-20a3 3:M68 1:M127 2:M69",
    "2:M6c 1:V 1:M6e 1:M6e.6f 2:V 3:S-20a9 2:M72 2:V 1:M73.6d 1:M74.65.6c 1:M74.6d 1:V 1:M7a 1:V",
    "1:M3c9 1:V 1:M7a 1:V 1:M6b 1:Me5 2:S-20ca 1:V 2:M65 1:M66 1:M214e 1:M6d 1:M6f 4:S-1b65 1:M69",
    "1:V 1:M66.61.78 1:M3c0 2:M3b3 1:M3c0 1:M2211 4:V 2:M64 1:M65 2:S-20df 6:V 1:M31.2044.37",
    "1:M31.2044.39 1:M31.2044.31.30 1:M31.2044.33 1:M32.2044.33 1:M31.2044.35 1:M32.2044.35",
    "1:M33.2044.35 1:M34.2044.35 1:M31.2044.36 1:M35.2044.36 1:M31.2044.38 1:M33.2044.38",
    "1:M35.2044.38 1:M37.2044.38 1:M31.2044 1:M69 1:M69.69 1:M69.69.69 1:M69.76 1:M76 1:M76.69",
    "1:M76.69.69 1:M76.69.69.69 1:M69.78 1:M78 1:M78.69 1:M78.69.69 1:M6c 2:S-210a 1:M6d 1:M69",
    "1:M69.69 1:M69.69.69 1:M69.76 1:M76 1:M76.69 1:M76.69.69 1:M76.69.69.69 1:M69.78 1:M78",
    "1:M78.69 1:M78.69.69 1:M6c 2:S-211a 1:M6d 3:V 1:M2184 5:V 1:M30.2044.33 2:V 4:X 9c:V",
    "1:M222b.222b 1:M222b.222b.222b 1:V 1:M222e.222e 1:M222e.222e.222e f8:V 2:S+cdf ff:V 16:X b:V",
    "15:X 9:S-242f 1:M31.30 1:M31.31 1:M31.32 1:M31.33 1:M31.34 1:M31.35 1:M31.36 1:M31.37",
    "1:M31.38 1:M31.39 1:M32.30 1:M28.31.29 1:M28.32.29 1:M28.33.29 1:M28.34.29 1:M28.35.29",
    "1:M28.36.29 1:M28.37.29 1:M28.38.29 1:M28.39.29 1:M28.31.30.29 1:M28.31.31.29 1:M28.31.32.29",
    "1:M28.31.33.29 1:M28.31.34.29 1:M28.31.35.29 1:M28.31.36.29 1:M28.31.37.29 1:M28.31.38.29",
    "1:M28.31.39.29 1:M28.32.30.29 14:X 1:M28.61.29 1:M28.62.29 1:M28.63.29 1:M28.64.29",
    "1:M28.65.29 1:M28.66.29 1:M28.67.29 1:M28.68.29 1:M28.69.29 1:M28.6a.29 1:M28.6b.29",
    "1:M28.6c.29 1:M28.6d.29 1:M28.6e.29 1:M28.6f.29 1:M28.70.29 1:M28.71.29 1:M28.72.29",
    "1:M28.73.29 1:M28.74.29 1:M28.75.29 1:M28.76.29 1:M28.77.29 1:M28.78.29 1:M28.79.29",
    "1:M28.7a.29 1a:S-2455 1a:S-246f 1:M30 521:V 1:M222b.222b.222b.222b 67:V 1:M3a.3a.3d 1:M3d.3d",
    "1:M3d.3d.3d 65:V 1:M2add.338 97:V 2:X 8a:V 30:S+30 30:V 1:M2c61 1:V 1:M26b 1:M1d7d 1:M27d",
    "2:V 6:P 1:M251 1:M271 1:M250 1:M252 1:V 1:M2c73 2:V 1:M2c76 6:V 1:M6a 1:M76 2:S-2a3f 64:P",
    "7:V 4:P 3:V 1:M2cf3 1:V 5:X 2d:V 1:X 1:V 5:X 1:V 2:X 38:V 7:X 1:M2d61 1:V e:X 18:V 9:X 7:V",
    "1:X 7:V 1:X 7:V 1:X 7:V 1:X 7:V 1:X 7:V 1:X 7:V 1:X 7:V 1:X 7e:V 22:X 1a:V 1:X 4:V 1:M6bcd",
    "53:V 1:M9f9f c:X 1:M4e00 1:M4e28 1:M4e36 1:M4e3f 1:M4e59 1:M4e85 1:M4e8c 1:M4ea0 1:M4eba",
    "1:M513f 1:M5165 1:M516b 1:M5182 1:M5196 1:M51ab 1:M51e0 1:M51f5 1:M5200 1:M529b 1:M52f9",
    "1:M5315 1:M531a 1:M5338 1:M5341 1:M535c 1:M5369 1:M5382 1:M53b6 1:M53c8 1:M53e3 1:M56d7",
    "1:M571f 1:M58eb 1:M5902 1:M590a 1:M5915 1:M5927 1:M5973 1:M5b50 1:M5b80 1:M5bf8 1:M5c0f",
    "1:M5c22 1:M5c38 1:M5c6e 1:M5c71 1:M5ddb 1:M5de5 1:M5df1 1:M5dfe 1:M5e72 1:M5e7a 1:M5e7f",
    "1:M5ef4 1:M5efe 1:M5f0b 1:M5f13 1:M5f50 1:M5f61 1:M5f73 1:M5fc3 1:M6208 1:M6236 1:M624b",
    "1:M652f 1:M6534 1:M6587 1:M6597 1:M65a4 1:M65b9 1:M65e0 1:M65e5 1:M66f0 1:M6708 1:M6728",
    "1:M6b20 1:M6b62 1:M6b79 1:M6bb3 1:M6bcb 1:M6bd4 1:M6bdb 1:M6c0f 1:M6c14 1:M6c34 1:M706b",
    "1:M722a 1:M7236 1:M723b 1:M723f 1:M7247 1:M7259 1:M725b 1:M72ac 1:M7384 1:M7389 1:M74dc",
    "1:M74e6 1:M7518 1:M751f 1:M7528 1:M7530 1:M758b 1:M7592 1:M7676 1:M767d 1:M76ae 1:M76bf",
    "1:M76ee 1:M77db 1:M77e2 1:M77f3 1:M793a 1:M79b8 1:M79be 1:M7a74 1:M7acb 1:M7af9 1:M7c73",
    "1:M7cf8 1:M7f36 1:M7f51 1:M7f8a 1:M7fbd 1:M8001 1:M800c 1:M8012 1:M8033 1:M807f 1:M8089",
    "1:M81e3 1:M81ea 1:M81f3 1:M81fc 1:M820c 1:M821b 1:M821f 1:M826e 1:M8272 1:M8278 1:M864d",
    "1:M866b 1:M8840 1:M884c 1:M8863 1:M897e 1:M898b 1:M89d2 1:M8a00 1:M8c37 1:M8c46 1:M8c55",
    "1:M8c78 1:M8c9d 1:M8d64 1:M8d70 1:M8db3 1:M8eab 1:M8eca 1:M8f9b 1:M8fb0 1:M8fb5 1:M9091",
    "1:M9149 1:M91c6 1:M91cc 1:M91d1 1:M9577 1:M9580 1:M961c 1:M96b6 1:M96b9 1:M96e8 1:M9751",
    "1:M975e 1:M9762 1:M9769 1:M97cb 1:M97ed 1:M97f3 1:M9801 1:M98a8 1:M98db 1:M98df 1:M9996",
    "1:M9999 1:M99ac 1:M9aa8 1:M9ad8 1:M9adf 1:M9b25 1:M9b2f 1:M9b32 1:M9b3c 1:M9b5a 1:M9ce5",
    "1:M9e75 1:M9e7f 1:M9ea5 1:M9ebb 1:M9ec3 1:M9ecd 1:M9ed1 1:M9ef9 1:M9efd 1:M9f0e 1:M9f13",
    "1:M9f20 1:M9f3b 1:M9f4a 1:M9f52 1:M9f8d 1:M9f9c 1:M9fa0 2a:X 1:M20 1:V 1:M2e 33:V 1:M3012",
    "1:V 1:M5341 2:S+230b 5:V 1:X 56:V 2:X 2:V 1:M20.3099 1:M20.309a 2:V 1:M3088.308a 5f:V",
    "1:M30b3.30c8 5:X 2b:V 1:X 2:S-2031 1:M11aa 1:M1102 2:S-1f89 3:S-2034 6:S-1f8a 1:M111a",
    "3:S-203b 1:M1121 a:S-203c 15:S-1fee 1:I 2:S-2051 2:S-1fa0 1:M11cc 1:M11ce 1:M11d3 1:M11d7",
    "1:M11d9 1:M111c 1:M11dd 1:M11df 2:S-2054 1:M1120 2:S-2052 1:M1127 1:M1129 5:S-204d 1:M1132",
    "1:M1136 1:M1140 1:M1147 1:M114c 2:S-1f91 3:S-202d 2:S-2003 1:M1188 2:S-1ff9 1:M1194 1:M119e",
    "1:M11a1 1:X 2:V 1:M4e00 1:M4e8c 1:M4e09 1:M56db 1:M4e0a 1:M4e2d 1:M4e0b 1:M7532 1:M4e59",
    "1:M4e19 1:M4e01 1:M5929 1:M5730 1:M4eba 46:V a:X 10:V 1:M28.1100.29 1:M28.1102.29",
    "1:M28.1103.29 1:M28.1105.29 1:M28.1106.29 1:M28.1107.29 1:M28.1109.29 1:M28.110b.29",
    "1:M28.110c.29 1:M28.110e.29 1:M28.110f.29 1:M28.1110.29 1:M28.1111.29 1:M28.1112.29",
    "1:M28.ac00.29 1:M28.b098.29 1:M28.b2e4.29 1:M28.b77c.29 1:M28.b9c8.29 1:M28.bc14.29",
    "1:M28.c0ac.29 1:M28.c544.29 1:M28.c790.29 1:M28.cc28.29 1:M28.ce74.29 1:M28.d0c0.29",
    "1:M28.d30c.29 1:M28.d558.29 1:M28.c8fc.29 1:M28.c624.c804.29 1:M28.c624.d6c4.29 1:X",
    "1:M28.4e00.29 1:M28.4e8c.29 1:M28.4e09.29 1:M28.56db.29 1:M28.4e94.29 1:M28.516d.29",
    "1:M28.4e03.29 1:M28.516b.29 1:M28.4e5d.29 1:M28.5341.29 1:M28.6708.29 1:M28.706b.29",
    "1:M28.6c34.29 1:M28.6728.29 1:M28.91d1.29 1:M28.571f.29 1:M28.65e5.29 1:M28.682a.29",
    "1:M28.6709.29 1:M28.793e.29 1:M28.540d.29 1:M28.7279.29 1:M28.8ca1.29 1:M28.795d.29",
    "1:M28.52b4.29 1:M28.4ee3.29 1:M28.547c.29 1:M28.5b66.29 1:M28.76e3.29 1:M28.4f01.29",
    "1:M28.8cc7.29 1:M28.5354.29 1:M28.796d.29 1:M28.4f11.29 1:M28.81ea.29 1:M28.81f3.29 1:M554f",
    "1:M5e7c 1:M6587 1:M7b8f 8:V 1:M70.74.65 1:M32.31 1:M32.32 1:M32.33 1:M32.34 1:M32.35",
    "1:M32.36 1:M32.37 1:M32.38 1:M32.39 1:M33.30 1:M33.31 1:M33.32 1:M33.33 1:M33.34 1:M33.35",
    "1:M1100 2:S-215f 3:S-215e 1:M1109 2:S-215c 5:S-215b 1:Mac00 1:Mb098 1:Mb2e4 1:Mb77c 1:Mb9c8",
    "1:Mbc14 1:Mc0ac 1:Mc544 1:Mc790 1:Mcc28 1:Mce74 1:Md0c0 1:Md30c 1:Md558 1:Mcc38.ace0",
    "1:Mc8fc.c758 1:Mc6b0 1:V 1:M4e00 1:M4e8c 1:M4e09 1:M56db 1:M4e94 1:M516d 1:M4e03 1:M516b",
    "1:M4e5d 1:M5341 1:M6708 1:M706b 1:M6c34 1:M6728 1:M91d1 1:M571f 1:M65e5 1:M682a 1:M6709",
    "1:M793e 1:M540d 1:M7279 1:M8ca1 1:M795d 1:M52b4 1:M79d8 1:M7537 1:M5973 1:M9069 1:M512a",
    "1:M5370 1:M6ce8 1:M9805 1:M4f11 1:M5199 1:M6b63 1:M4e0a 1:M4e2d 1:M4e0b 1:M5de6 1:M53f3",
    "1:M533b 1:M5b97 1:M5b66 1:M76e3 1:M4f01 1:M8cc7 1:M5354 1:M591c 1:M33.36 1:M33.37 1:M33.38",
    "1:M33.39 1:M34.30 1:M34.31 1:M34.32 1:M34.33 1:M34.34 1:M34.35 1:M34.36 1:M34.37 1:M34.38",
    "1:M34.39 1:M35.30 1:M31.6708 1:M32.6708 1:M33.6708 1:M34.6708 1:M35.6708 1:M36.6708",
    "1:M37.6708 1:M38.6708 1:M39.6708 1:M31.30.6708 1:M31.31.6708 1:M31.32.6708 1:M68.67",
    "1:M65.72.67 1:M65.76 1:M6c.74.64 1:M30a2 1:M30a4 1:M30a6 1:M30a8 2:S-22a 1:M30ad 1:M30af",
    "1:M30b1 1:M30b3 1:M30b5 1:M30b7 1:M30b9 1:M30bb 1:M30bd 1:M30bf 1:M30c1 1:M30c4 1:M30c6",
    "1:M30c8 6:S-21a 1:M30d2 1:M30d5 1:M30d8 1:M30db 5:S-210 1:M30e4 1:M30e6 6:S-20d 4:S-20c",
    "1:M4ee4.548c 1:M30a2.30d1.30fc.30c8 1:M30a2.30eb.30d5.30a1 1:M30a2.30f3.30da.30a2",
    "1:M30a2.30fc.30eb 1:M30a4.30cb.30f3.30b0 1:M30a4.30f3.30c1 1:M30a6.30a9.30f3",
    "1:M30a8.30b9.30af.30fc.30c9 1:M30a8.30fc.30ab.30fc 1:M30aa.30f3.30b9 1:M30aa.30fc.30e0",
    "1:M30ab.30a4.30ea 1:M30ab.30e9.30c3.30c8 1:M30ab.30ed.30ea.30fc 1:M30ac.30ed.30f3",
    "1:M30ac.30f3.30de 1:M30ae.30ac 1:M30ae.30cb.30fc 1:M30ad.30e5.30ea.30fc",
    "1:M30ae.30eb.30c0.30fc 1:M30ad.30ed 1:M30ad.30ed.30b0.30e9.30e0",
    "1:M30ad.30ed.30e1.30fc.30c8.30eb 1:M30ad.30ed.30ef.30c3.30c8 1:M30b0.30e9.30e0",
    "1:M30b0.30e9.30e0.30c8.30f3 1:M30af.30eb.30bc.30a4.30ed 1:M30af.30ed.30fc.30cd",
    "1:M30b1.30fc.30b9 1:M30b3.30eb.30ca 1:M30b3.30fc.30dd 1:M30b5.30a4.30af.30eb",
    "1:M30b5.30f3.30c1.30fc.30e0 1:M30b7.30ea.30f3.30b0 1:M30bb.30f3.30c1 1:M30bb.30f3.30c8",
    "1:M30c0.30fc.30b9 1:M30c7.30b7 1:M30c9.30eb 1:M30c8.30f3 1:M30ca.30ce 1:M30ce.30c3.30c8",
    "1:M30cf.30a4.30c4 1:M30d1.30fc.30bb.30f3.30c8 1:M30d1.30fc.30c4 1:M30d0.30fc.30ec.30eb",
    "1:M30d4.30a2.30b9.30c8.30eb 1:M30d4.30af.30eb 1:M30d4.30b3 1:M30d3.30eb",
    "1:M30d5.30a1.30e9.30c3.30c9 1:M30d5.30a3.30fc.30c8 1:M30d6.30c3.30b7.30a7.30eb",
    "1:M30d5.30e9.30f3 1:M30d8.30af.30bf.30fc.30eb 1:M30da.30bd 1:M30da.30cb.30d2",
    "1:M30d8.30eb.30c4 1:M30da.30f3.30b9 1:M30da.30fc.30b8 1:M30d9.30fc.30bf",
    "1:M30dd.30a4.30f3.30c8 1:M30dc.30eb.30c8 1:M30db.30f3 1:M30dd.30f3.30c9 1:M30db.30fc.30eb",
    "1:M30db.30fc.30f3 1:M30de.30a4.30af.30ed 1:M30de.30a4.30eb 1:M30de.30c3.30cf",
    "1:M30de.30eb.30af 1:M30de.30f3.30b7.30e7.30f3 1:M30df.30af.30ed.30f3 1:M30df.30ea",
    "1:M30df.30ea.30d0.30fc.30eb 1:M30e1.30ac 1:M30e1.30ac.30c8.30f3 1:M30e1.30fc.30c8.30eb",
    "1:M30e4.30fc.30c9 1:M30e4.30fc.30eb 1:M30e6.30a2.30f3 1:M30ea.30c3.30c8.30eb 1:M30ea.30e9",
    "1:M30eb.30d4.30fc 1:M30eb.30fc.30d6.30eb 1:M30ec.30e0 1:M30ec.30f3.30c8.30b2.30f3",
    "1:M30ef.30c3.30c8 1:M30.70b9 1:M31.70b9 1:M32.70b9 1:M33.70b9 1:M34.70b9 1:M35.70b9",
    "1:M36.70b9 1:M37.70b9 1:M38.70b9 1:M39.70b9 1:M31.30.70b9 1:M31.31.70b9 1:M31.32.70b9",
    "1:M31.33.70b9 1:M31.34.70b9 1:M31.35.70b9 1:M31.36.70b9 1:M31.37.70b9 1:M31.38.70b9",
    "1:M31.39.70b9 1:M32.30.70b9 1:M32.31.70b9 1:M32.32.70b9 1:M32.33.70b9 1:M32.34.70b9",
    "1:M68.70.61 1:M64.61 1:M61.75 1:M62.61.72 1:M6f.76 1:M70.63 1:M64.6d 1:M64.6d.32 1:M64.6d.33",
    "1:M69.75 1:M5e73.6210 1:M662d.548c 1:M5927.6b63 1:M660e.6cbb 1:M682a.5f0f.4f1a.793e 1:M70.61",
    "1:M6e.61 1:M3bc.61 1:M6d.61 1:M6b.61 1:M6b.62 1:M6d.62 1:M67.62 1:M63.61.6c 1:M6b.63.61.6c",
    "1:M70.66 1:M6e.66 1:M3bc.66 1:M3bc.67 1:M6d.67 1:M6b.67 1:M68.7a 1:M6b.68.7a 1:M6d.68.7a",
    "1:M67.68.7a 1:M74.68.7a 1:M3bc.6c 1:M6d.6c 1:M64.6c 1:M6b.6c 1:M66.6d 1:M6e.6d 1:M3bc.6d",
    "1:M6d.6d 1:M63.6d 1:M6b.6d 1:M6d.6d.32 1:M63.6d.32 1:M6d.32 1:M6b.6d.32 1:M6d.6d.33",
    "1:M63.6d.33 1:M6d.33 1:M6b.6d.33 1:M6d.2215.73 1:M6d.2215.73.32 1:M70.61 1:M6b.70.61",
    "1:M6d.70.61 1:M67.70.61 1:M72.61.64 1:M72.61.64.2215.73 1:M72.61.64.2215.73.32 1:M70.73",
    "1:M6e.73 1:M3bc.73 1:M6d.73 1:M70.76 1:M6e.76 1:M3bc.76 1:M6d.76 1:M6b.76 1:M6d.76 1:M70.77",
    "1:M6e.77 1:M3bc.77 1:M6d.77 1:M6b.77 1:M6d.77 1:M6b.3c9 1:M6d.3c9 1:X 1:M62.71 1:M63.63",
    "1:M63.64 1:M63.2215.6b.67 1:X 1:M64.62 1:M67.79 1:M68.61 1:M68.70 1:M69.6e 1:M6b.6b 1:M6b.6d",
    "1:M6b.74 1:M6c.6d 1:M6c.6e 1:M6c.6f.67 1:M6c.78 1:M6d.62 1:M6d.69.6c 1:M6d.6f.6c 1:M70.68",
    "1:X 1:M70.70.6d 1:M70.72 1:M73.72 1:M73.76 1:M77.62 1:M76.2215.6d 1:M61.2215.6d 1:M31.65e5",
    "1:M32.65e5 1:M33.65e5 1:M34.65e5 1:M35.65e5 1:M36.65e5 1:M37.65e5 1:M38.65e5 1:M39.65e5",
    "1:M31.30.65e5 1:M31.31.65e5 1:M31.32.65e5 1:M31.33.65e5 1:M31.34.65e5 1:M31.35.65e5",
    "1:M31.36.65e5 1:M31.37.65e5 1:M31.38.65e5 1:M31.39.65e5 1:M32.30.65e5 1:M32.31.65e5",
    "1:M32.32.65e5 1:M32.33.65e5 1:M32.34.65e5 1:M32.35.65e5 1:M32.36.65e5 1:M32.37.65e5",
    "1:M32.38.65e5 1:M32.39.65e5 1:M33.30.65e5 1:M33.31.65e5 1:M67.61.6c 708d:V 3:X 37:V 9:X",
    "15c:V 14:X 2e:P 12:V 1c:P 1:M44a 1:M44c 5a:V 8:X 22:V e:P 2:V 3e:P 1:Ma76f 8:V 4:P 1:M1d79",
    "a:P 3:V 1:Ma78c 1:V 1:M265 2:V 4:P 2:V 14:P 1:M266 1:M25c 1:M261 1:M26c 1:M26a 1:V 1:M29e",
    "1:M287 1:M29d 1:Mab53 10:P 1:Ma794 1:M282 1:M1d8e 4:P 1:M264 10:P 1:M19b 14:X 1:M73 1:M63",
    "1:M66 1:M71 1:Ma7f6 2:V 1:M127 1:M153 33:V 3:X a:V 6:X 38:V 8:X 46:V 8:X c:V 6:X 74:V b:X",
    "1e:V 3:X 4e:V 1:X b:V 4:X 21:V 1:X 37:V 9:X e:V 2:X a:V 2:X 67:V 18:X 1c:V a:X 6:V 2:X 6:V",
    "2:X 6:V 9:X 7:V 1:X 7:V 1:X 2c:V 1:Ma727 1:Mab37 1:M26b 1:Mab52 9:V 1:M28d 2:V 4:X 50:S-97d0",
    "2e:V 2:X a:V 6:X 2ba4:V c:X 17:V 4:X 31:V 2104:X 1:M8c48 1:M66f4 1:M8eca 1:M8cc8 1:M6ed1",
    "1:M4e32 1:M53e5 2:M9f9c 1:M5951 1:M91d1 1:M5587 1:M5948 1:M61f6 1:M7669 1:M7f85 1:M863f",
    "1:M87ba 1:M88f8 1:M908f 1:M6a02 1:M6d1b 1:M70d9 1:M73de 1:M843d 1:M916a 1:M99f1 1:M4e82",
    "1:M5375 1:M6b04 1:M721b 1:M862d 1:M9e1e 1:M5d50 1:M6feb 1:M85cd 1:M8964 1:M62c9 1:M81d8",
    "1:M881f 1:M5eca 1:M6717 1:M6d6a 1:M72fc 1:M90ce 1:M4f86 1:M51b7 1:M52de 1:M64c4 1:M6ad3",
    "1:M7210 1:M76e7 1:M8001 1:M8606 1:M865c 1:M8def 1:M9732 1:M9b6f 1:M9dfa 1:M788c 1:M797f",
    "1:M7da0 1:M83c9 1:M9304 1:M9e7f 1:M8ad6 1:M58df 1:M5f04 1:M7c60 1:M807e 1:M7262 1:M78ca",
    "1:M8cc2 1:M96f7 1:M58d8 1:M5c62 1:M6a13 1:M6dda 1:M6f0f 1:M7d2f 1:M7e37 1:M964b 1:M52d2",
    "1:M808b 1:M51dc 1:M51cc 1:M7a1c 1:M7dbe 1:M83f1 1:M9675 1:M8b80 1:M62cf 1:M6a02 1:M8afe",
    "1:M4e39 1:M5be7 1:M6012 1:M7387 1:M7570 1:M5317 1:M78fb 1:M4fbf 1:M5fa9 1:M4e0d 1:M6ccc",
    "1:M6578 1:M7d22 1:M53c3 1:M585e 1:M7701 1:M8449 1:M8aaa 1:M6bba 1:M8fb0 1:M6c88 1:M62fe",
    "1:M82e5 1:M63a0 1:M7565 1:M4eae 1:M5169 1:M51c9 1:M6881 1:M7ce7 1:M826f 1:M8ad2 1:M91cf",
    "1:M52f5 1:M5442 1:M5973 1:M5eec 1:M65c5 1:M6ffe 1:M792a 1:M95ad 1:M9a6a 1:M9e97 1:M9ece",
    "1:M529b 1:M66c6 1:M6b77 1:M8f62 1:M5e74 1:M6190 1:M6200 1:M649a 1:M6f23 1:M7149 1:M7489",
    "1:M79ca 1:M7df4 1:M806f 1:M8f26 1:M84ee 1:M9023 1:M934a 1:M5217 1:M52a3 1:M54bd 1:M70c8",
    "1:M88c2 1:M8aaa 1:M5ec9 1:M5ff5 1:M637b 1:M6bae 1:M7c3e 1:M7375 1:M4ee4 1:M56f9 1:M5be7",
    "1:M5dba 1:M601c 1:M73b2 1:M7469 1:M7f9a 1:M8046 1:M9234 1:M96f6 1:M9748 1:M9818 1:M4f8b",
    "1:M79ae 1:M91b4 1:M96b8 1:M60e1 1:M4e86 1:M50da 1:M5bee 1:M5c3f 1:M6599 1:M6a02 1:M71ce",
    "1:M7642 1:M84fc 1:M907c 1:M9f8d 1:M6688 1:M962e 1:M5289 1:M677b 1:M67f3 1:M6d41 1:M6e9c",
    "1:M7409 1:M7559 1:M786b 1:M7d10 1:M985e 1:M516d 1:M622e 1:M9678 1:M502b 1:M5d19 1:M6dea",
    "1:M8f2a 1:M5f8b 1:M6144 1:M6817 1:M7387 1:M9686 1:M5229 1:M540f 1:M5c65 1:M6613 1:M674e",
    "1:M68a8 1:M6ce5 1:M7406 1:M75e2 1:M7f79 1:M88cf 1:M88e1 1:M91cc 1:M96e2 1:M533f 1:M6eba",
    "1:M541d 1:M71d0 1:M7498 1:M85fa 1:M96a3 1:M9c57 1:M9e9f 1:M6797 1:M6dcb 1:M81e8 1:M7acb",
    "1:M7b20 1:M7c92 1:M72c0 1:M7099 1:M8b58 1:M4ec0 1:M8336 1:M523a 1:M5207 1:M5ea6 1:M62d3",
    "1:M7cd6 1:M5b85 1:M6d1e 1:M66b4 1:M8f3b 1:M884c 1:M964d 1:M898b 1:M5ed3 1:M5140 1:M55c0 2:V",
    "1:M585a 1:V 1:M6674 2:V 1:M51de 1:M732a 1:M76ca 1:M793c 1:M795e 1:M7965 1:M798f 1:M9756",
    "1:M7cbe 1:M7fbd 1:V 1:M8612 1:V 1:M8af8 2:V 1:M9038 1:M90fd 3:V 1:M98ef 1:M98fc 1:M9928",
    "1:M9db4 1:M90de 1:M96b7 1:M4fae 1:M50e7 1:M514d 1:M52c9 1:M52e4 1:M5351 1:M559d 1:M5606",
    "1:M5668 1:M5840 1:M58a8 1:M5c64 1:M5c6e 1:M6094 1:M6168 1:M618e 1:M61f2 1:M654f 1:M65e2",
    "1:M6691 1:M6885 1:M6d77 1:M6e1a 1:M6f22 1:M716e 1:M722b 1:M7422 1:M7891 1:M793e 1:M7949",
    "1:M7948 1:M7950 1:M7956 1:M795d 2:S-80c5 1:M7a40 1:M7a81 1:M7bc0 1:M7df4 1:M7e09 1:M7e41",
    "1:M7f72 1:M8005 1:M81ed 2:M8279 1:M8457 1:M8910 1:M8996 1:M8b01 1:M8b39 1:M8cd3 1:M8d08",
    "1:M8fb6 1:M9038 1:M96e3 1:M97ff 1:M983b 1:M6075 1:M242ee 1:M8218 2:X 1:M4e26 1:M51b5 1:M5168",
    "1:M4f80 1:M5145 1:M5180 1:M52c7 1:M52fa 1:M559d 1:M5555 1:M5599 1:M55e2 1:M585a 1:M58b3",
    "1:M5944 1:M5954 1:M5a62 1:M5b28 1:M5ed2 1:M5ed9 1:M5f69 1:M5fad 1:M60d8 1:M614e 1:M6108",
    "1:M618e 1:M6160 1:M61f2 1:M6234 1:M63c4 1:M641c 1:M6452 1:M6556 1:M6674 1:M6717 1:M671b",
    "1:M6756 1:M6b79 1:M6bba 1:M6d41 1:M6edb 1:M6ecb 1:M6f22 1:M701e 1:M716e 1:M77a7 1:M7235",
    "1:M72af 1:M732a 1:M7471 1:M7506 1:M753b 1:M761d 1:M761f 1:M76ca 1:M76db 1:M76f4 1:M774a",
    "1:M7740 1:M78cc 1:M7ab1 1:M7bc0 1:M7c7b 1:M7d5b 1:M7df4 1:M7f3e 1:M8005 1:M8352 1:M83ef",
    "1:M8779 1:M8941 1:M8986 1:M8996 1:M8abf 1:M8af8 1:M8acb 1:M8b01 1:M8afe 1:M8aed 1:M8b39",
    "1:M8b8a 1:M8d08 1:M8f38 1:M9072 1:M9199 1:M9276 1:M967c 1:M96e3 1:M9756 1:M97db 1:M97ff",
    "1:M980b 1:M983b 1:M9b12 1:M9f9c 1:M2284a 1:M22844 1:M233d5 1:M3b9d 1:M4018 1:M4039 1:M25249",
    "1:M25cd0 1:M27ed3 1:M9f43 1:M9f8e 26:X 1:M66.66 1:M66.69 1:M66.6c 1:M66.66.69 1:M66.66.6c",
    "2:M73.74 c:X 1:M574.576 1:M574.565 1:M574.56b 1:M57e.576 1:M574.56d 5:X 1:M5d9.5b4 1:V",
    "1:M5f2.5b7 1:M5e2 1:M5d0 2:S-f54f 3:S-f549 1:M5e8 1:M5ea 1:M2b 1:M5e9.5c1 1:M5e9.5c2",
    "1:M5e9.5bc.5c1 1:M5e9.5bc.5c2 1:M5d0.5b7 1:M5d0.5b8 1:M5d0.5bc 1:M5d1.5bc 1:M5d2.5bc",
    "1:M5d3.5bc 1:M5d4.5bc 1:M5d5.5bc 1:M5d6.5bc 1:X 1:M5d8.5bc 1:M5d9.5bc 1:M5da.5bc 1:M5db.5bc",
    "1:M5dc.5bc 1:X 1:M5de.5bc 1:X 1:M5e0.5bc 1:M5e1.5bc 1:X 1:M5e3.5bc 1:M5e4.5bc 1:X 1:M5e6.5bc",
    "1:M5e7.5bc 1:M5e8.5bc 1:M5e9.5bc 1:M5ea.5bc 1:M5d5.5b9 1:M5d1.5bf 1:M5db.5bf 1:M5e4.5bf",
    "1:M5d0.5dc 2:M671 4:M67b 4:M67e 4:M680 4:M67a 4:M67f 4:M679 4:M6a4 4:M6a6 4:M684 4:M683",
    "4:M686 4:M687 2:M68d 2:M68c 2:M68e 2:M688 2:M698 2:M691 4:M6a9 4:M6af 4:M6b3 4:M6b1 2:M6ba",
    "4:M6bb 2:M6c0 4:M6c1 4:M6be 2:M6d2 2:M6d3 21:V 4:M6ad 2:M6c7 2:M6c6 2:M6c8 1:M6c7.674 2:M6cb",
    "2:M6c5 2:M6c9 4:M6d0 2:M649 2:M626.627 2:M626.6d5 2:M626.648 2:M626.6c7 2:M626.6c6",
    "2:M626.6c8 3:M626.6d0 3:M626.649 4:M6cc 1:M626.62c 1:M626.62d 1:M626.645 1:M626.649",
    "1:M626.64a 1:M628.62c 1:M628.62d 1:M628.62e 1:M628.645 1:M628.649 1:M628.64a 1:M62a.62c",
    "1:M62a.62d 1:M62a.62e 1:M62a.645 1:M62a.649 1:M62a.64a 1:M62b.62c 1:M62b.645 1:M62b.649",
    "1:M62b.64a 1:M62c.62d 1:M62c.645 1:M62d.62c 1:M62d.645 1:M62e.62c 1:M62e.62d 1:M62e.645",
    "1:M633.62c 1:M633.62d 1:M633.62e 1:M633.645 1:M635.62d 1:M635.645 1:M636.62c 1:M636.62d",
    "1:M636.62e 1:M636.645 1:M637.62d 1:M637.645 1:M638.645 1:M639.62c 1:M639.645 1:M63a.62c",
    "1:M63a.645 1:M641.62c 1:M641.62d 1:M641.62e 1:M641.645 1:M641.649 1:M641.64a 1:M642.62d",
    "1:M642.645 1:M642.649 1:M642.64a 1:M643.627 1:M643.62c 1:M643.62d 1:M643.62e 1:M643.644",
    "1:M643.645 1:M643.649 1:M643.64a 1:M644.62c 1:M644.62d 1:M644.62e 1:M644.645 1:M644.649",
    "1:M644.64a 1:M645.62c 1:M645.62d 1:M645.62e 1:M645.645 1:M645.649 1:M645.64a 1:M646.62c",
    "1:M646.62d 1:M646.62e 1:M646.645 1:M646.649 1:M646.64a 1:M647.62c 1:M647.645 1:M647.649",
    "1:M647.64a 1:M64a.62c 1:M64a.62d 1:M64a.62e 1:M64a.645 1:M64a.649 1:M64a.64a 1:M630.670",
    "1:M631.670 1:M649.670 1:M20.64c.651 1:M20.64d.651 1:M20.64e.651 1:M20.64f.651 1:M20.650.651",
    "1:M20.651.670 1:M626.631 1:M626.632 1:M626.645 1:M626.646 1:M626.649 1:M626.64a 1:M628.631",
    "1:M628.632 1:M628.645 1:M628.646 1:M628.649 1:M628.64a 1:M62a.631 1:M62a.632 1:M62a.645",
    "1:M62a.646 1:M62a.649 1:M62a.64a 1:M62b.631 1:M62b.632 1:M62b.645 1:M62b.646 1:M62b.649",
    "1:M62b.64a 1:M641.649 1:M641.64a 1:M642.649 1:M642.64a 1:M643.627 1:M643.644 1:M643.645",
    "1:M643.649 1:M643.64a 1:M644.645 1:M644.649 1:M644.64a 1:M645.627 1:M645.645 1:M646.631",
    "1:M646.632 1:M646.645 1:M646.646 1:M646.649 1:M646.64a 1:M649.670 1:M64a.631 1:M64a.632",
    "1:M64a.645 1:M64a.646 1:M64a.649 1:M64a.64a 1:M626.62c 1:M626.62d 1:M626.62e 1:M626.645",
    "1:M626.647 1:M628.62c 1:M628.62d 1:M628.62e 1:M628.645 1:M628.647 1:M62a.62c 1:M62a.62d",
    "1:M62a.62e 1:M62a.645 1:M62a.647 1:M62b.645 1:M62c.62d 1:M62c.645 1:M62d.62c 1:M62d.645",
    "1:M62e.62c 1:M62e.645 1:M633.62c 1:M633.62d 1:M633.62e 1:M633.645 1:M635.62d 1:M635.62e",
    "1:M635.645 1:M636.62c 1:M636.62d 1:M636.62e 1:M636.645 1:M637.62d 1:M638.645 1:M639.62c",
    "1:M639.645 1:M63a.62c 1:M63a.645 1:M641.62c 1:M641.62d 1:M641.62e 1:M641.645 1:M642.62d",
    "1:M642.645 1:M643.62c 1:M643.62d 1:M643.62e 1:M643.644 1:M643.645 1:M644.62c 1:M644.62d",
    "1:M644.62e 1:M644.645 1:M644.647 1:M645.62c 1:M645.62d 1:M645.62e 1:M645.645 1:M646.62c",
    "1:M646.62d 1:M646.62e 1:M646.645 1:M646.647 1:M647.62c 1:M647.645 1:M647.670 1:M64a.62c",
    "1:M64a.62d 1:M64a.62e 1:M64a.645 1:M64a.647 1:M626.645 1:M626.647 1:M628.645 1:M628.647",
    "1:M62a.645 1:M62a.647 1:M62b.645 1:M62b.647 1:M633.645 1:M633.647 1:M634.645 1:M634.647",
    "1:M643.644 1:M643.645 1:M644.645 1:M646.645 1:M646.647 1:M64a.645 1:M64a.647 1:M640.64e.651",
    "1:M640.64f.651 1:M640.650.651 1:M637.649 1:M637.64a 1:M639.649 1:M639.64a 1:M63a.649",
    "1:M63a.64a 1:M633.649 1:M633.64a 1:M634.649 1:M634.64a 1:M62d.649 1:M62d.64a 1:M62c.649",
    "1:M62c.64a 1:M62e.649 1:M62e.64a 1:M635.649 1:M635.64a 1:M636.649 1:M636.64a 1:M634.62c",
    "1:M634.62d 1:M634.62e 1:M634.645 1:M634.631 1:M633.631 1:M635.631 1:M636.631 1:M637.649",
    "1:M637.64a 1:M639.649 1:M639.64a 1:M63a.649 1:M63a.64a 1:M633.649 1:M633.64a 1:M634.649",
    "1:M634.64a 1:M62d.649 1:M62d.64a 1:M62c.649 1:M62c.64a 1:M62e.649 1:M62e.64a 1:M635.649",
    "1:M635.64a 1:M636.649 1:M636.64a 1:M634.62c 1:M634.62d 1:M634.62e 1:M634.645 1:M634.631",
    "1:M633.631 1:M635.631 1:M636.631 1:M634.62c 1:M634.62d 1:M634.62e 1:M634.645 1:M633.647",
    "1:M634.647 1:M637.645 1:M633.62c 1:M633.62d 1:M633.62e 1:M634.62c 1:M634.62d 1:M634.62e",
    "1:M637.645 1:M638.645 2:M627.64b 12:V 1:M62a.62c.645 2:M62a.62d.62c 1:M62a.62d.645",
    "1:M62a.62e.645 1:M62a.645.62c 1:M62a.645.62d 1:M62a.645.62e 2:M62c.645.62d 1:M62d.645.64a",
    "1:M62d.645.649 1:M633.62d.62c 1:M633.62c.62d 1:M633.62c.649 2:M633.645.62d 1:M633.645.62c",
    "2:M633.645.645 2:M635.62d.62d 1:M635.645.645 2:M634.62d.645 1:M634.62c.64a 2:M634.645.62e",
    "2:M634.645.645 1:M636.62d.649 2:M636.62e.645 2:M637.645.62d 1:M637.645.645 1:M637.645.64a",
    "1:M639.62c.645 2:M639.645.645 1:M639.645.649 1:M63a.645.645 1:M63a.645.64a 1:M63a.645.649",
    "2:M641.62e.645 1:M642.645.62d 1:M642.645.645 1:M644.62d.645 1:M644.62d.64a 1:M644.62d.649",
    "2:M644.62c.62c 2:M644.62e.645 2:M644.645.62d 1:M645.62d.62c 1:M645.62d.645 1:M645.62d.64a",
    "1:M645.62c.62d 1:M645.62c.645 1:M645.62e.62c 1:M645.62e.645 2:V 1:M645.62c.62e",
    "1:M647.645.62c 1:M647.645.645 1:M646.62d.645 1:M646.62d.649 2:M646.62c.645 1:M646.62c.649",
    "1:M646.645.64a 1:M646.645.649 2:M64a.645.645 1:M628.62e.64a 1:M62a.62c.64a 1:M62a.62c.649",
    "1:M62a.62e.64a 1:M62a.62e.649 1:M62a.645.64a 1:M62a.645.649 1:M62c.645.64a 1:M62c.62d.649",
    "1:M62c.645.649 1:M633.62e.649 1:M635.62d.64a 1:M634.62d.64a 1:M636.62d.64a 1:M644.62c.64a",
    "1:M644.645.64a 1:M64a.62d.64a 1:M64a.62c.64a 1:M64a.645.64a 1:M645.645.64a 1:M642.645.64a",
    "1:M646.62d.64a 1:M642.645.62d 1:M644.62d.645 1:M639.645.64a 1:M643.645.64a 1:M646.62c.62d",
    "1:M645.62e.64a 1:M644.62c.645 1:M643.645.645 1:M644.62c.645 1:M646.62c.62d 1:M62c.62d.64a",
    "1:M62d.62c.64a 1:M645.62c.64a 1:M641.645.64a 1:M628.62d.64a 1:M643.645.645 1:M639.62c.645",
    "1:M635.645.645 1:M633.62e.64a 1:M646.62c.64a 8:V 20:X 1:M635.644.6d2 1:M642.644.6d2",
    "1:M627.644.644.647 1:M627.643.628.631 1:M645.62d.645.62f 1:M635.644.639.645",
    "1:M631.633.648.644 1:M639.644.64a.647 1:M648.633.644.645 1:M635.644.649",
    "1:M635.644.649.20.627.644.644.647.20.639.644.64a.647.20.648.633.644.645",
    "1:M62c.644.20.62c.644.627.644.647 1:M631.6cc.627.644 3:V 10:I 1:M2c 1:M3001 1:X 2:S-fdd9",
    "1:M21 1:M3f 2:S-ce01 7:X 10:V 1:X 1:M2014 1:M2013 2:M5f 2:S-fe0d 1:M7b 1:M7d 2:S-ce25",
    "2:S-ce2b 2:S-ce33 2:S-ce37 4:S-ce35 2:V 1:M5b 1:M5d 4:M20.305 3:M5f 1:M2c 1:M3001 2:X 1:M3b",
    "1:M3a 1:M3f 1:M21 1:M2014 2:S-fe31 1:M7b 1:M7d 2:S-ce49 1:M23 1:M26 2:S-fe37 1:M2d 1:M3c",
    "1:M3e 1:M3d 1:X 1:M5c 2:S-fe45 1:M40 4:X 1:M20.64b 1:M640.64b 1:M20.64c 1:V 1:M20.64d 1:X",
    "1:M20.64e 1:M640.64e 1:M20.64f 1:M640.64f 1:M20.650 1:M640.650 1:M20.651 1:M640.651",
    "1:M20.652 1:M640.652 2:S-f85f 2:S-f860 2:S-f861 2:S-f862 2:S-f863 3:M626 2:M627 4:M628",
    "2:M629 4:M62a 4:M62b 4:M62c 4:M62d 4:M62e 2:M62f 2:M630 2:M631 2:M632 4:M633 4:M634 4:M635",
    "4:M636 4:M637 4:M638 4:M639 4:M63a 4:M641 4:M642 4:M643 4:M644 4:M645 4:M646 4:M647 2:M648",
    "2:M649 4:M64a 2:M644.622 2:M644.623 2:M644.625 2:M644.627 2:X 1:I 1:X 20:S-fee0 1a:S-fec0",
    "24:S-fee0 2:S-d5da 1:M2e 2:S-cf56 1:M3001 1:M30fb 1:M30f2 1:M30a1 1:M30a3 1:M30a5 1:M30a7",
    "1:M30a9 1:M30e3 1:M30e5 1:M30e7 1:M30c3 1:M30fc 1:M30a2 1:M30a4 1:M30a6 1:M30a8 2:S-cecb",
    "1:M30ad 1:M30af 1:M30b1 1:M30b3 1:M30b5 1:M30b7 1:M30b9 1:M30bb 1:M30bd 1:M30bf 1:M30c1",
    "1:M30c4 1:M30c6 1:M30c8 6:S-cebb 1:M30d2 1:M30d5 1:M30d8 1:M30db 5:S-ceb1 1:M30e4 1:M30e6",
    "6:S-ceae 1:M30ef 1:M30f3 2:S-cf05 1:I 2:S-eea1 1:M11aa 1:M1102 2:S-edf9 3:S-eea4 6:S-edfa",
    "1:M111a 3:S-eeab 1:M1121 a:S-eeac 3:X 6:S-ee61 2:X 6:S-ee63 2:X 6:S-ee65 2:X 3:S-ee67 3:X",
    "2:S-ff3e 1:Mac 1:M20.304 1:Ma6 1:Ma5 1:M20a9 1:X 1:M2502 4:S-de59 1:M25a0 1:M25cb 11:X c:V",
    "1:X 1a:V 1:X 13:V 1:X 2:V 1:X f:V 2:X e:V 22:X 7b:V 5:X 3:V 4:X 2d:V 3:X 58:V 1:X d:V 3:X",
    "1:V 2f:X 2e:V 82:X 1d:V 3:X 31:V f:X 1c:V 4:X 24:V 9:X 1e:V 5:X 2b:V 5:X 1e:V 1:X 25:V 4:X",
    "e:V 2a:X 28:S+28 76:V 2:X a:V 6:X 24:S+28 4:X 24:V 4:X 28:V 8:X 34:V b:X 1:V b:S+27 1:X",
    "f:S+27 1:X 7:S+27 1:X 2:S+27 1:X b:V 1:X f:V 1:X 7:V 1:X 2:V 3:X 34:V c:X 137:V 9:X 16:V a:X",
    "8:V 18:X 1:V 2:S-104b1 1:Me6 1:M299 1:M253 1:X 1:M2a3 1:Mab66 1:M2a5 1:M2a4 2:S-10535",
    "1:M1d91 1:M258 1:M25e 1:M2a9 1:M264 1:M262 1:M260 1:M29b 1:M127 1:M29c 1:M267 1:M284",
    "2:S-104ef 1:M26c 1:M1df04 1:Ma78e 1:M26e 1:M1df05 1:M28e 1:M1df06 1:Mf8 2:S-1052d 1:M71",
    "1:M27a 1:M1df08 2:S-1052b 1:M280 1:M2a8 1:M2a6 1:Mab67 1:M2a7 1:M288 1:M2c71 1:X 1:M28f",
    "2:S-10512 1:M298 3:S-105f6 1:M1df0a 1:M1df1e 45:X 6:V 2:X 1:V 1:X 2c:V 1:X 2:V 3:X 1:V 2:X",
    "17:V 1:X 48:V 8:X 9:V 30:X 13:V 1:X 2:V 5:X 21:V 3:X 1b:V 5:X 1b:V 26:X 38:V 4:X 14:V 2:X",
    "32:V 1:X 2:V 5:X 8:V 1:X 3:V 1:X 1d:V 2:X 3:V 4:X a:V 7:X 9:V 7:X 40:V 20:X 27:V 4:X c:V 9:X",
    "36:V 3:X 1d:V 2:X 1b:V 5:X 1a:V 7:X 4:V c:X 7:V 50:X 49:V 37:X 33:S+40 d:X 33:V 7:X 2e:V 8:X",
    "a:V 6:X 10:V 16:S+20 3:X 1d:V 8:X 2:V d0:X 1f:V 1:X 2a:V 1:X 3:V 2:X 2:V 10:X 6:V 8:X 9:V",
    "21:X 2e:V 8:X 2a:V 16:X 1a:V 26:X 1c:V 14:X 17:V 9:X 4e:V 4:X 24:V 9:X 3e:V 1:X 5:V d:X 19:V",
    "7:X a:V 6:X 35:V 1:X 12:V 8:X 27:V 9:X 60:V 1:X 14:V b:X 12:V 1:X 2f:V 3e:X 7:V 1:X 1:V 1:X",
    "4:V 1:X f:V 1:X b:V 6:X 3b:V 5:X a:V 6:X 4:V 1:X 8:V 2:X 2:V 2:X 16:V 1:X 7:V 1:X 2:V 1:X",
    "5:V 1:X a:V 2:X 2:V 2:X 3:V 2:X 1:V 6:X 1:V 5:X 7:V 2:X 7:V 3:X 5:V b:X a:V 1:X 1:V 2:X 1:V",
    "1:X 26:V 1:X a:V 1:X 1:V 2:X 1:V 1:X 4:V 1:X a:V 1:X 2:V 8:X 2:V 1d:X 5c:V 1:X 5:V 1e:X 48:V",
    "8:X a:V a6:X 36:V 2:X 26:V 22:X 45:V b:X a:V 6:X d:V 13:X 3a:V 6:X a:V 6:X 14:V 1c:X 1b:V",
    "2:X f:V 4:X 17:V b9:X 3c:V 64:X 20:S+20 33:V c:X 8:V 2:X 1:V 2:X 8:V 1:X 2:V 1:X 1e:V 1:X",
    "2:V 2:X c:V 9:X a:V 46:X 8:V 2:X 2e:V 2:X b:V 1b:X 48:V 8:X 53:V d:X 49:V 7:X a:V 56:X 8:V",
    "58:X 22:V e:X a:V 6:X 9:V 1:X 2d:V 1:X e:V a:X 1d:V 3:X 20:V 2:X 16:V 1:X e:V 49:X 7:V 1:X",
    "2:V 1:X 2c:V 3:X 1:V 1:X 2:V 1:X 9:V 8:X a:V 6:X 6:V 1:X 2:V 1:X 25:V 1:X 2:V 1:X 6:V 7:X",
    "a:V 6:X 2c:V 4:X a:V f6:X 19:V 7:X 11:V 1:X 29:V 3:X 1d:V 55:X 1:V f:X 32:V d:X 39b:V 66:X",
    "6f:V 1:X 5:V b:X c4:V a4c:X 63:V d:X 430:V 10:X 16:V a:X f9b:V 5:X 247:V 1ab9:X 3a:V 6c6:X",
    "239:V 7:X 1f:V 1:X a:V 4:X 51:V 1:X a:V 6:X 1e:V 2:X 6:V a:X 46:V a:X a:V 1:X 7:V 1:X 15:V",
    "5:X 13:V 1b0:X 3a:V c6:X 20:S+20 3b:V 5:X 19:S+1b 2:X 19:V 2c:X 4b:V 4:X 39:V 7:X 11:V 40:X",
    "5:V b:X 7:V 9:X 1cd6:V 29:X 20:V 61:X 73:V 21fd:X 4:V 1:X 7:V 1:X 2:V 1:X 123:V f:X 1:V 1d:X",
    "3:V 2:X 1:V e:X 4:V 8:X 18c:V 904:X 6b:V 5:X d:V 3:X 9:V 7:X a:V 2:X 4:V 4:I f5c:X d6:V",
    "1a:S-1cc75 a:S-1ccc0 3:V 3:X 1b4:V 6:X 17:V f:X 11:V f:X 2e:V 2:X 17:V 9:X 74:V 3c:X f6:V",
    "a:X 27:V 2:X 35:V 1:M1d157.1d165 1:M1d158.1d165 1:M1d158.1d165.1d16e 1:M1d158.1d165.1d16f",
    "1:M1d158.1d165.1d170 1:M1d158.1d165.1d171 1:M1d158.1d165.1d172 e:V 8:I 40:V 1:M1d1b9.1d165",
    "1:M1d1ba.1d165 1:M1d1b9.1d165.1d16e 1:M1d1ba.1d165.1d16e 1:M1d1b9.1d165.1d16f",
    "1:M1d1ba.1d165.1d16f 2a:V 15:X 46:V 7a:X 14:V c:X 14:V c:X 57:V 9:X 19:V 87:X 1a:S-1d39f",
    "1a:S-1d3b9 1a:S-1d3d3 7:S-1d3ed 1:X 12:S-1d3ed 1a:S-1d407 1a:S-1d421 1:M61 1:X 2:S-1d43b 2:X",
    "1:M67 2:X 2:S-1d43b 2:X 4:S-1d43b 1:X 8:S-1d43b 4:S-1d455 1:X 1:M66 1:X 7:S-1d455 1:X",
    "b:S-1d455 1a:S-1d46f 1a:S-1d489 2:S-1d4a3 1:X 4:S-1d4a3 2:X 8:S-1d4a3 1:X 7:S-1d4a3 1:X",
    "1a:S-1d4bd 2:S-1d4d7 1:X 4:S-1d4d7 1:X 5:S-1d4d7 1:X 1:M6f 3:X 7:S-1d4d7 1:X 1a:S-1d4f1",
    "1a:S-1d50b 1a:S-1d525 1a:S-1d53f 1a:S-1d559 1a:S-1d573 1a:S-1d58d 1a:S-1d5a7 1a:S-1d5c1",
    "1a:S-1d5db 1a:S-1d5f5 1a:S-1d60f 1a:S-1d629 1:M131 1:M237 2:X 11:S-1d2f7 1:M3b8 7:S-1d2f7",
    "1:M2207 11:S-1d311 2:M3c3 6:S-1d311 1:M2202 1:M3b5 1:M3b8 1:M3ba 1:M3c6 1:M3c1 1:M3c0",
    "11:S-1d331 1:M3b8 7:S-1d331 1:M2207 11:S-1d34b 2:M3c3 6:S-1d34b 1:M2202 1:M3b5 1:M3b8 1:M3ba",
    "1:M3c6 1:M3c1 1:M3c0 11:S-1d36b 1:M3b8 7:S-1d36b 1:M2207 11:S-1d385 2:M3c3 6:S-1d385 1:M2202",
    "1:M3b5 1:M3b8 1:M3ba 1:M3c6 1:M3c1 1:M3c0 11:S-1d3a5 1:M3b8 7:S-1d3a5 1:M2207 11:S-1d3bf",
    "2:M3c3 6:S-1d3bf 1:M2202 1:M3b5 1:M3b8 1:M3ba 1:M3c6 1:M3c1 1:M3c0 11:S-1d3df 1:M3b8",
    "7:S-1d3df 1:M2207 11:S-1d3f9 2:M3c3 6:S-1d3f9 1:M2202 1:M3b5 1:M3b8 1:M3ba 1:M3c6 1:M3c1",
    "1:M3c0 2:M3dd 2:X a:S-1d79e a:S-1d7a8 a:S-1d7b2 a:S-1d7bc a:S-1d7c6 28c:V f:X 5:V 1:X f:V",
    "450:X 1f:V 6:X 6:V d5:X 7:V 1:X 11:V 2:X 7:V 1:X 2:V 1:X 5:V 5:X 9:S-1dc00 3:S-1dbff",
    "b:S-1dbfe 1:M44b 2:S-1dbfb 1:Ma689 1:M4d9 1:M456 1:M458 1:M4e9 1:M4af 1:M4cf 9:S-1dc21",
    "2:S-1dc20 2:S-1dc1e 1:M441 6:S-1dc1c 2:S-1dc1b 1:M491 1:M456 1:M455 1:M45f 1:M4ab 1:Ma651",
    "1:M4b1 21:X 1:V 70:X 2d:V 3:X e:V 2:X a:V 4:X 2:V 140:X 1f:V 11:X 3a:V 5:X 1:V 1d0:X 2a:V",
    "d6:X 2b:V 4:X 1:V c0:X 1f:V 1:X 16:V 8:X 2:V e0:X 7:V 1:X 4:V 1:X 2:V 1:X f:V 1:X c5:V 2:X",
    "10:V 29:X 22:S+22 2a:V 4:X a:V 4:X 2:V 311:X 44:V 4c:X 3d:V c2:X 2:S-1e7d9 1:M62c 1:M62f 1:X",
    "1:M648 1:M632 1:M62d 1:M637 1:M64a 4:S-1e7c7 1:M633 1:M639 1:M641 1:M635 1:M642 1:M631",
    "1:M634 2:S-1e7eb 1:M62e 1:M630 1:M636 1:M638 1:M63a 1:M66e 1:M6ba 1:M6a1 1:M66f 1:X 1:M628",
    "1:M62c 1:X 1:M647 2:X 1:M62d 1:X 1:M64a 4:S-1e7e7 1:M633 1:M639 1:M641 1:M635 1:M642 1:X",
    "1:M634 2:S-1e80b 1:M62e 1:X 1:M636 1:X 1:M63a 6:X 1:M62c 4:X 1:M62d 1:X 1:M64a 1:X 1:M644",
    "1:X 1:M646 1:M633 1:M639 1:X 1:M635 1:M642 1:X 1:M634 2:X 1:M62e 1:X 1:M636 1:X 1:M63a 1:X",
    "1:M6ba 1:X 1:M66f 1:X 1:M628 1:M62c 1:X 1:M647 2:X 1:M62d 1:M637 1:M64a 1:M643 1:X 2:S-1e827",
    "1:M633 1:M639 1:M641 1:M635 1:M642 1:X 1:M634 2:S-1e84b 1:M62e 1:X 1:M636 1:M638 1:M63a",
    "1:M66e 1:X 1:M6a1 1:X 2:S-1e859 1:M62c 1:M62f 2:S-1e83d 1:M632 1:M62d 1:M637 1:M64a 1:X",
    "3:S-1e847 1:M633 1:M639 1:M641 1:M635 1:M642 1:M631 1:M634 2:S-1e86b 1:M62e 1:M630 1:M636",
    "1:M638 1:M63a 5:X 1:M628 1:M62c 1:M62f 1:X 1:M648 1:M632 1:M62d 1:M637 1:M64a 1:X 3:S-1e867",
    "1:M633 1:M639 1:M641 1:M635 1:M642 1:M631 1:M634 2:S-1e88b 1:M62e 1:M630 1:M636 1:M638",
    "1:M63a 34:X 2:V 10e:X 2c:V 4:X 64:V c:X f:V 2:X f:V 1:X f:V 1:X 25:V b:X 1:M30.2c 1:M31.2c",
    "1:M32.2c 1:M33.2c 1:M34.2c 1:M35.2c 1:M36.2c 1:M37.2c 1:M38.2c 1:M39.2c 5:V 1:M28.61.29",
    "1:M28.62.29 1:M28.63.29 1:M28.64.29 1:M28.65.29 1:M28.66.29 1:M28.67.29 1:M28.68.29",
    "1:M28.69.29 1:M28.6a.29 1:M28.6b.29 1:M28.6c.29 1:M28.6d.29 1:M28.6e.29 1:M28.6f.29",
    "1:M28.70.29 1:M28.71.29 1:M28.72.29 1:M28.73.29 1:M28.74.29 1:M28.75.29 1:M28.76.29",
    "1:M28.77.29 1:M28.78.29 1:M28.79.29 1:M28.7a.29 1:M3014.73.3015 1:M63 1:M72 1:M63.64",
    "1:M77.7a 1:V 1a:S-1f0cf 1:M68.76 1:M6d.76 1:M73.64 1:M73.73 1:M70.70.76 1:M77.63 1a:V",
    "1:M6d.63 1:M6d.64 1:M6d.72 23:V 1:M64.6a 1d:V 38:X 1a:V 1:M307b.304b 1:M30b3.30b3 1:M30b5",
    "d:X 1:M624b 1:M5b57 1:M53cc 1:M30c7 1:M4e8c 1:M591a 1:M89e3 1:M5929 1:M4ea4 1:M6620 1:M7121",
    "1:M6599 1:M524d 1:M5f8c 1:M518d 1:M65b0 1:M521d 1:M7d42 1:M751f 1:M8ca9 1:M58f0 1:M5439",
    "1:M6f14 1:M6295 1:M6355 1:M4e00 1:M4e09 1:M904a 1:M5de6 1:M4e2d 1:M53f3 1:M6307 1:M8d70",
    "1:M6253 1:M7981 1:M7a7a 1:M5408 1:M6e80 1:M6709 1:M6708 1:M7533 1:M5272 1:M55b6 1:M914d 4:X",
    "1:M3014.672c.3015 1:M3014.4e09.3015 1:M3014.4e8c.3015 1:M3014.5b89.3015 1:M3014.70b9.3015",
    "1:M3014.6253.3015 1:M3014.76d7.3015 1:M3014.52dd.3015 1:M3014.6557.3015 7:X 1:M5f97 1:M53ef",
    "e:X 6:V 9a:X 3d9:V 3:X 11:V 3:X d:V 3:X da:V 6:X c:V 4:X 1:V f:X c:V 4:X 38:V 8:X a:V 6:X",
    "28:V 8:X 1e:V 2:X c:V 4:X 2:V e:X 9:V 27:X 158:V 8:X e:V 2:X d:V 3:X b:V 3:X 39:V 1:X 1:V",
    "4:X 10:V 2:X c:V 4:X a:V 7:X 93:V 1:X 5c:V a:S-1fbc0 1:V 405:X a6e0:V 20:X 111e:V 2:X 168e:V",
    "2:X 1d31:V f:X 26e:V 9a2:X 1:M4e3d 1:M4e38 1:M4e41 1:M20122 1:M4f60 1:M4fae 1:M4fbb 1:M5002",
    "1:M507a 1:M5099 1:M50e7 1:M50cf 1:M349e 1:M2063a 1:M514d 1:M5154 1:M5164 1:M5177 1:M2051c",
    "1:M34b9 1:M5167 1:M518d 1:M2054b 1:M5197 1:M51a4 1:M4ecc 1:M51ac 1:M51b5 1:M291df 1:M51f5",
    "1:M5203 1:M34df 1:M523b 1:M5246 1:M5272 1:M5277 1:M3515 1:M52c7 1:M52c9 1:M52e4 1:M52fa",
    "2:S-2a524 1:M5317 1:M5349 1:M5351 1:M535a 1:M5373 1:M537d 3:M537f 1:M20a2c 1:M7070 1:M53ca",
    "1:M53df 1:M20b63 1:M53eb 1:M53f1 1:M5406 1:M549e 1:M5438 1:M5448 1:M5468 1:M54a2 1:M54f6",
    "1:M5510 1:M5553 1:M5563 2:M5584 1:M5599 1:M55ab 1:M55b3 1:M55c2 1:M5716 1:M5606 1:M5717",
    "1:M5651 1:M5674 1:M5207 1:M58ee 1:M57ce 1:M57f4 1:M580d 1:M578b 1:M5832 1:M5831 1:M58ac",
    "1:M214e4 1:M58f2 1:M58f7 1:M5906 1:M591a 1:M5922 1:M5962 1:M216a8 1:M216ea 1:M59ec 1:M5a1b",
    "1:M5a27 1:M59d8 1:M5a66 1:M36ee 1:M36fc 1:M5b08 2:M5b3e 1:M219c8 1:M5bc3 1:M5bd8 1:M5be7",
    "1:M5bf3 1:M21b18 1:M5bff 1:M5c06 1:M5f53 1:M5c22 1:M3781 1:M5c60 1:M5c6e 1:M5cc0 1:M5c8d",
    "1:M21de4 1:M5d43 1:M21de6 1:M5d6e 1:M5d6b 1:M5d7c 2:S-29aa0 1:M382f 1:M5dfd 1:M5e28 1:M5e3d",
    "1:M5e69 1:M3862 1:M22183 1:M387c 1:M5eb0 1:M5eb3 1:M5eb6 1:M5eca 1:M2a392 1:M5efe 2:M22331",
    "1:M8201 2:M5f22 1:M38c7 1:M232b8 1:M261da 1:M5f62 1:M5f6b 1:M38e3 1:M5f9a 1:M5fcd 1:M5fd7",
    "1:M5ff9 1:M6081 1:M393a 1:M391c 1:M6094 1:M226d4 1:M60c7 1:M6148 1:M614c 1:M614e 1:M614c",
    "1:M617a 1:M618e 1:M61b2 1:M61a4 1:M61af 1:M61de 1:M61f2 1:M61f6 1:M6210 1:M621b 1:M625d",
    "1:M62b1 1:M62d4 1:M6350 1:M22b0c 1:M633d 1:M62fc 1:M6368 1:M6383 1:M63e4 1:M22bf1 1:M6422",
    "1:M63c5 1:M63a9 1:M3a2e 1:M6469 1:M647e 1:M649d 1:M6477 1:M3a6c 1:M654f 1:M656c 1:M2300a",
    "1:M65e3 1:M66f8 1:M6649 1:M3b19 1:M6691 1:M3b08 1:M3ae4 1:M5192 1:M5195 1:M6700 1:M669c",
    "1:M80ad 1:M43d9 1:M6717 1:M671b 1:M6721 1:M675e 1:M6753 1:M233c3 1:M3b49 1:M67fa 1:M6785",
    "1:M6852 1:M6885 1:M2346d 1:M688e 1:M681f 1:M6914 1:M3b9d 1:M6942 1:M69a3 1:M69ea 1:M6aa8",
    "1:M236a3 1:M6adb 1:M3c18 1:M6b21 1:M238a7 1:M6b54 1:M3c4e 1:M6b72 1:M6b9f 2:S-28d3b 1:M23a8d",
    "1:M21d0b 1:M23afa 1:M6c4e 1:M23cbc 1:M6cbf 1:M6ccd 1:M6c67 1:M6d16 1:M6d3e 1:M6d77 1:M6d41",
    "1:M6d69 1:M6d78 1:M6d85 1:M23d1e 1:M6d34 1:M6e2f 1:M6e6e 1:M3d33 1:M6ecb 1:M6ec7 1:M23ed1",
    "1:M6df9 1:M6f6e 1:M23f5e 1:M23f8e 1:M6fc6 1:M7039 1:M701e 1:M701b 1:M3d96 1:M704a 1:M707d",
    "1:M7077 1:M70ad 1:M20525 1:M7145 1:M24263 1:M719c 1:M243ab 1:M7228 1:M7235 1:M7250 1:M24608",
    "1:M7280 1:M7295 1:M24735 1:M24814 1:M737a 1:M738b 1:M3eac 1:M73a5 2:M3eb8 1:M7447 1:M745c",
    "1:M7471 1:M7485 1:M74ca 1:M3f1b 1:M7524 1:M24c36 1:M753e 1:M24c92 1:M7570 1:M2219f 1:M7610",
    "1:M24fa1 1:M24fb8 1:M25044 1:M3ffc 1:M4008 1:M76f4 1:M250f3 1:M250f2 1:M25119 1:M25133",
    "2:S-28227 1:M771f 1:M774a 1:M4039 1:M778b 1:M4046 1:M4096 1:M2541d 1:M784e 1:M788c 1:M78cc",
    "1:M40e3 1:M25626 1:M7956 1:M2569a 1:M256c5 1:M798f 1:M79eb 1:M412f 1:M7a40 1:M7a4a 1:M7a4f",
    "1:M2597c 2:M25aa7 1:M7aee 1:M4202 1:M25bab 1:M7bc6 1:M7bc9 1:M4227 1:M25c80 1:M7cd2 1:M42a0",
    "1:M7ce8 1:M7ce3 1:M7d00 1:M25f86 1:M7d63 1:M4301 1:M7dc7 1:M7e02 1:M7e45 1:M4334 1:M26228",
    "1:M26247 1:M4359 1:M262d9 1:M7f7a 1:M2633e 1:M7f95 1:M7ffa 1:M8005 1:M264da 1:M26523 1:M8060",
    "1:M265a8 1:M8070 1:M2335f 1:M43d5 1:M80b2 1:M8103 1:M440b 1:M813e 1:M5ab5 1:M267a7 1:M267b5",
    "1:M23393 1:M2339c 1:M8201 1:M8204 1:M8f9e 1:M446b 1:M8291 1:M828b 1:M829d 1:M52b3 1:M82b1",
    "1:M82b3 1:M82bd 1:M82e6 1:M26b3c 1:M82e5 1:M831d 1:M8363 1:M83ad 1:M8323 1:M83bd 1:M83e7",
    "1:M8457 1:M8353 1:M83ca 1:M83cc 1:M83dc 1:M26c36 1:M26d6b 1:M26cd5 1:M452b 1:M84f1 1:M84f3",
    "1:M8516 1:M273ca 1:M8564 1:M26f2c 1:M455d 1:M4561 1:M26fb1 1:M270d2 1:M456b 1:M8650 1:M865c",
    "1:M8667 1:M8669 1:M86a9 1:M8688 1:M870e 1:M86e2 1:M8779 1:M8728 1:M876b 1:M8786 1:M45d7",
    "1:M87e1 1:M8801 1:M45f9 1:M8860 1:M8863 1:M27667 1:M88d7 1:M88de 1:M4635 1:M88fa 1:M34bb",
    "1:M278ae 1:M27966 1:M46be 1:M46c7 1:M8aa0 1:M8aed 1:M8b8a 1:M8c55 1:M27ca8 1:M8cab 1:M8cc1",
    "1:M8d1b 1:M8d77 1:M27f2f 1:M20804 1:M8dcb 1:M8dbc 1:M8df0 1:M208de 1:M8ed4 1:M8f38 1:M285d2",
    "1:M285ed 1:M9094 1:M90f1 1:M9111 1:M2872e 1:M911b 1:M9238 2:S-26711 1:M927c 1:M93f9 1:M9415",
    "1:M28bfa 1:M958b 1:M4995 1:M95b7 1:M28d77 1:M49e6 1:M96c3 1:M5db2 1:M9723 1:M29145 1:M2921a",
    "1:M4a6e 1:M4a76 1:M97e0 1:M2940a 1:M4ab2 1:M29496 2:M980b 1:M9829 1:M295b6 1:M98e2 1:M4b33",
    "1:M9929 1:M99a7 1:M99c2 1:M99fe 1:M4bce 1:M29b30 1:M9b12 1:M9c40 1:M9cfd 1:M4cce 1:M4ced",
    "1:M9d67 1:M2a0ce 1:M4cf8 1:M2a105 1:M2a20e 1:M2a291 1:M9ebb 1:M4d56 1:M9ef9 1:M9efe 1:M9f05",
    "1:M9f0f 1:M9f16 1:M9f3b 1:M2a600 5e2:X 134b:V 5:X 212a:V acc86:X f0:I" ]

end FormScaffold.Unicode.Table
