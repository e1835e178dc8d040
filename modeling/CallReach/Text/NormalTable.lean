import CallReach.Text.Split

/-!
# Tables of compatible characters

Some characters of names are variants of others: a letter in another style, a ligature, a letter
together with a mark.  The tables say which, for Unicode 14 and the characters that names are made
of.  A table is a text of records with blanks and line feeds between them; a record holds
hexadecimal numbers with points between them.

* `expansionText`: the first of some code points in a row, how many follow it, and what the first
  expands to; the others expand to the same with a last code point as much greater.
* `classText`: the first of some marks in a row, how many follow it, and their class.
* `pairText`: a code point and one after it, and the code point that the two make.
-/

namespace CallReach.Text

/-- The value of a hexadecimal digit that is a capital if it is a letter. -/
def hexValue (c : Char) : Nat :=
  if c.isDigit then c.toNat - '0'.toNat else c.toNat - 'A'.toNat + 10

/-- The records of a table. -/
def records (table : String) : List (List Nat) :=
  (((split '\n' table).flatMap (split ' ')).filter (!·.isEmpty)).map fun record =>
    (split '.' record).map fun number => number.toList.foldl (fun n c => 16 * n + hexValue c) 0

/-- What the variants of characters expand to. -/
def expansionText : String :=
  "AA.0.61 B5.0.3BC BA.0.6F C0.3.41.300 C4.0.41.308 C5.0.41.30A C7.0.43.327 C8.2.45.300
    CB.0.45.308 CC.2.49.300 CF.0.49.308 D1.0.4E.303 D2.3.4F.300 D6.0.4F.308 D9.2.55.300
    DC.0.55.308 DD.0.59.301 E0.3.61.300 E4.0.61.308 E5.0.61.30A E7.0.63.327 E8.2.65.300
    EB.0.65.308 EC.2.69.300 EF.0.69.308 F1.0.6E.303 F2.3.6F.300 F6.0.6F.308 F9.2.75.300
    FC.0.75.308 FD.0.79.301 FF.0.79.308 100.0.41.304 101.0.61.304 102.0.41.306 103.0.61.306
    104.0.41.328 105.0.61.328 106.0.43.301 107.0.63.301 108.0.43.302 109.0.63.302 10A.0.43.307
    10B.0.63.307 10C.0.43.30C 10D.0.63.30C 10E.0.44.30C 10F.0.64.30C 112.0.45.304 113.0.65.304
    114.0.45.306 115.0.65.306 116.0.45.307 117.0.65.307 118.0.45.328 119.0.65.328 11A.0.45.30C
    11B.0.65.30C 11C.0.47.302 11D.0.67.302 11E.0.47.306 11F.0.67.306 120.0.47.307 121.0.67.307
    122.0.47.327 123.0.67.327 124.0.48.302 125.0.68.302 128.0.49.303 129.0.69.303 12A.0.49.304
    12B.0.69.304 12C.0.49.306 12D.0.69.306 12E.0.49.328 12F.0.69.328 130.0.49.307 132.0.49.4A
    133.0.69.6A 134.0.4A.302 135.0.6A.302 136.0.4B.327 137.0.6B.327 139.0.4C.301 13A.0.6C.301
    13B.0.4C.327 13C.0.6C.327 13D.0.4C.30C 13E.0.6C.30C 13F.0.4C.B7 140.0.6C.B7 143.0.4E.301
    144.0.6E.301 145.0.4E.327 146.0.6E.327 147.0.4E.30C 148.0.6E.30C 149.0.2BC.6E 14C.0.4F.304
    14D.0.6F.304 14E.0.4F.306 14F.0.6F.306 150.0.4F.30B 151.0.6F.30B 154.0.52.301 155.0.72.301
    156.0.52.327 157.0.72.327 158.0.52.30C 159.0.72.30C 15A.0.53.301 15B.0.73.301 15C.0.53.302
    15D.0.73.302 15E.0.53.327 15F.0.73.327 160.0.53.30C 161.0.73.30C 162.0.54.327 163.0.74.327
    164.0.54.30C 165.0.74.30C 168.0.55.303 169.0.75.303 16A.0.55.304 16B.0.75.304 16C.0.55.306
    16D.0.75.306 16E.0.55.30A 16F.0.75.30A 170.0.55.30B 171.0.75.30B 172.0.55.328 173.0.75.328
    174.0.57.302 175.0.77.302 176.0.59.302 177.0.79.302 178.0.59.308 179.0.5A.301 17A.0.7A.301
    17B.0.5A.307 17C.0.7A.307 17D.0.5A.30C 17E.0.7A.30C 17F.0.73 1A0.0.4F.31B 1A1.0.6F.31B
    1AF.0.55.31B 1B0.0.75.31B 1C4.0.44.5A.30C 1C5.0.44.7A.30C 1C6.0.64.7A.30C 1C7.0.4C.4A
    1C8.0.4C.6A 1C9.0.6C.6A 1CA.0.4E.4A 1CB.0.4E.6A 1CC.0.6E.6A 1CD.0.41.30C 1CE.0.61.30C
    1CF.0.49.30C 1D0.0.69.30C 1D1.0.4F.30C 1D2.0.6F.30C 1D3.0.55.30C 1D4.0.75.30C
    1D5.0.55.308.304 1D6.0.75.308.304 1D7.0.55.308.301 1D8.0.75.308.301 1D9.0.55.308.30C
    1DA.0.75.308.30C 1DB.0.55.308.300 1DC.0.75.308.300 1DE.0.41.308.304 1DF.0.61.308.304
    1E0.0.41.307.304 1E1.0.61.307.304 1E2.0.C6.304 1E3.0.E6.304 1E6.0.47.30C 1E7.0.67.30C
    1E8.0.4B.30C 1E9.0.6B.30C 1EA.0.4F.328 1EB.0.6F.328 1EC.0.4F.328.304 1ED.0.6F.328.304
    1EE.0.1B7.30C 1EF.0.292.30C 1F0.0.6A.30C 1F1.0.44.5A 1F2.0.44.7A 1F3.0.64.7A 1F4.0.47.301
    1F5.0.67.301 1F8.0.4E.300 1F9.0.6E.300 1FA.0.41.30A.301 1FB.0.61.30A.301 1FC.0.C6.301
    1FD.0.E6.301 1FE.0.D8.301 1FF.0.F8.301 200.0.41.30F 201.0.61.30F 202.0.41.311 203.0.61.311
    204.0.45.30F 205.0.65.30F 206.0.45.311 207.0.65.311 208.0.49.30F 209.0.69.30F 20A.0.49.311
    20B.0.69.311 20C.0.4F.30F 20D.0.6F.30F 20E.0.4F.311 20F.0.6F.311 210.0.52.30F 211.0.72.30F
    212.0.52.311 213.0.72.311 214.0.55.30F 215.0.75.30F 216.0.55.311 217.0.75.311 218.0.53.326
    219.0.73.326 21A.0.54.326 21B.0.74.326 21E.0.48.30C 21F.0.68.30C 226.0.41.307 227.0.61.307
    228.0.45.327 229.0.65.327 22A.0.4F.308.304 22B.0.6F.308.304 22C.0.4F.303.304
    22D.0.6F.303.304 22E.0.4F.307 22F.0.6F.307 230.0.4F.307.304 231.0.6F.307.304 232.0.59.304
    233.0.79.304 2B0.0.68 2B1.0.266 2B2.0.6A 2B3.0.72 2B4.0.279 2B5.0.27B 2B6.0.281 2B7.0.77
    2B8.0.79 2E0.0.263 2E1.0.6C 2E2.0.73 2E3.0.78 2E4.0.295 340.1.300 343.0.313 344.0.308.301
    374.0.2B9 386.0.391.301 387.0.B7 388.0.395.301 389.0.397.301 38A.0.399.301 38C.0.39F.301
    38E.0.3A5.301 38F.0.3A9.301 390.0.3B9.308.301 3AA.0.399.308 3AB.0.3A5.308 3AC.0.3B1.301
    3AD.0.3B5.301 3AE.0.3B7.301 3AF.0.3B9.301 3B0.0.3C5.308.301 3CA.0.3B9.308 3CB.0.3C5.308
    3CC.0.3BF.301 3CD.0.3C5.301 3CE.0.3C9.301 3D0.0.3B2 3D1.0.3B8 3D2.0.3A5 3D3.0.3A5.301
    3D4.0.3A5.308 3D5.0.3C6 3D6.0.3C0 3F0.0.3BA 3F1.1.3C1 3F4.0.398 3F5.0.3B5 3F9.0.3A3
    400.0.415.300 401.0.415.308 403.0.413.301 407.0.406.308 40C.0.41A.301 40D.0.418.300
    40E.0.423.306 419.0.418.306 439.0.438.306 450.0.435.300 451.0.435.308 453.0.433.301
    457.0.456.308 45C.0.43A.301 45D.0.438.300 45E.0.443.306 476.0.474.30F 477.0.475.30F
    4C1.0.416.306 4C2.0.436.306 4D0.0.410.306 4D1.0.430.306 4D2.0.410.308 4D3.0.430.308
    4D6.0.415.306 4D7.0.435.306 4DA.0.4D8.308 4DB.0.4D9.308 4DC.0.416.308 4DD.0.436.308
    4DE.0.417.308 4DF.0.437.308 4E2.0.418.304 4E3.0.438.304 4E4.0.418.308 4E5.0.438.308
    4E6.0.41E.308 4E7.0.43E.308 4EA.0.4E8.308 4EB.0.4E9.308 4EC.0.42D.308 4ED.0.44D.308
    4EE.0.423.304 4EF.0.443.304 4F0.0.423.308 4F1.0.443.308 4F2.0.423.30B 4F3.0.443.30B
    4F4.0.427.308 4F5.0.447.308 4F8.0.42B.308 4F9.0.44B.308 587.0.565.582 622.1.627.653
    624.0.648.654 625.0.627.655 626.0.64A.654 675.0.627.674 676.0.648.674 677.0.6C7.674
    678.0.64A.674 6C0.0.6D5.654 6C2.0.6C1.654 6D3.0.6D2.654 929.0.928.93C 931.0.930.93C
    934.0.933.93C 958.0.915.93C 959.0.916.93C 95A.0.917.93C 95B.0.91C.93C 95C.0.921.93C
    95D.0.922.93C 95E.0.92B.93C 95F.0.92F.93C 9CB.0.9C7.9BE 9CC.0.9C7.9D7 9DC.0.9A1.9BC
    9DD.0.9A2.9BC 9DF.0.9AF.9BC A33.0.A32.A3C A36.0.A38.A3C A59.0.A16.A3C A5A.0.A17.A3C
    A5B.0.A1C.A3C A5E.0.A2B.A3C B48.0.B47.B56 B4B.0.B47.B3E B4C.0.B47.B57 B5C.0.B21.B3C
    B5D.0.B22.B3C B94.0.B92.BD7 BCA.0.BC6.BBE BCB.0.BC7.BBE BCC.0.BC6.BD7 C48.0.C46.C56
    CC0.0.CBF.CD5 CC7.1.CC6.CD5 CCA.0.CC6.CC2 CCB.0.CC6.CC2.CD5 D4A.0.D46.D3E D4B.0.D47.D3E
    D4C.0.D46.D57 DDA.0.DD9.DCA DDC.0.DD9.DCF DDD.0.DD9.DCF.DCA DDE.0.DD9.DDF E33.0.E4D.E32
    EB3.0.ECD.EB2 EDC.0.EAB.E99 EDD.0.EAB.EA1 F43.0.F42.FB7 F4D.0.F4C.FB7 F52.0.F51.FB7
    F57.0.F56.FB7 F5C.0.F5B.FB7 F69.0.F40.FB5 F73.0.F71.F72 F75.0.F71.F74 F76.0.FB2.F80
    F77.0.FB2.F71.F80 F78.0.FB3.F80 F79.0.FB3.F71.F80 F81.0.F71.F80 F93.0.F92.FB7 F9D.0.F9C.FB7
    FA2.0.FA1.FB7 FA7.0.FA6.FB7 FAC.0.FAB.FB7 FB9.0.F90.FB5 1026.0.1025.102E 10FC.0.10DC
    1B06.0.1B05.1B35 1B08.0.1B07.1B35 1B0A.0.1B09.1B35 1B0C.0.1B0B.1B35 1B0E.0.1B0D.1B35
    1B12.0.1B11.1B35 1B3B.0.1B3A.1B35 1B3D.0.1B3C.1B35 1B40.0.1B3E.1B35 1B41.0.1B3F.1B35
    1B43.0.1B42.1B35 1D2C.0.41 1D2D.0.C6 1D2E.0.42 1D30.1.44 1D32.0.18E 1D33.7.47 1D3C.0.4F
    1D3D.0.222 1D3E.0.50 1D3F.0.52 1D40.1.54 1D42.0.57 1D43.0.61 1D44.1.250 1D46.0.1D02
    1D47.0.62 1D48.1.64 1D4A.0.259 1D4B.1.25B 1D4D.0.67 1D4F.0.6B 1D50.0.6D 1D51.0.14B 1D52.0.6F
    1D53.0.254 1D54.1.1D16 1D56.0.70 1D57.1.74 1D59.0.1D1D 1D5A.0.26F 1D5B.0.76 1D5C.0.1D25
    1D5D.2.3B2 1D60.1.3C6 1D62.0.69 1D63.0.72 1D64.1.75 1D66.1.3B2 1D68.0.3C1 1D69.1.3C6
    1D78.0.43D 1D9B.0.252 1D9C.0.63 1D9D.0.255 1D9E.0.F0 1D9F.0.25C 1DA0.0.66 1DA1.0.25F
    1DA2.0.261 1DA3.0.265 1DA4.2.268 1DA7.0.1D7B 1DA8.0.29D 1DA9.0.26D 1DAA.0.1D85 1DAB.0.29F
    1DAC.0.271 1DAD.0.270 1DAE.3.272 1DB2.0.278 1DB3.1.282 1DB5.0.1AB 1DB6.1.289 1DB8.0.1D1C
    1DB9.1.28B 1DBB.0.7A 1DBC.2.290 1DBF.0.3B8 1E00.0.41.325 1E01.0.61.325 1E02.0.42.307
    1E03.0.62.307 1E04.0.42.323 1E05.0.62.323 1E06.0.42.331 1E07.0.62.331 1E08.0.43.327.301
    1E09.0.63.327.301 1E0A.0.44.307 1E0B.0.64.307 1E0C.0.44.323 1E0D.0.64.323 1E0E.0.44.331
    1E0F.0.64.331 1E10.0.44.327 1E11.0.64.327 1E12.0.44.32D 1E13.0.64.32D 1E14.0.45.304.300
    1E15.0.65.304.300 1E16.0.45.304.301 1E17.0.65.304.301 1E18.0.45.32D 1E19.0.65.32D
    1E1A.0.45.330 1E1B.0.65.330 1E1C.0.45.327.306 1E1D.0.65.327.306 1E1E.0.46.307 1E1F.0.66.307
    1E20.0.47.304 1E21.0.67.304 1E22.0.48.307 1E23.0.68.307 1E24.0.48.323 1E25.0.68.323
    1E26.0.48.308 1E27.0.68.308 1E28.0.48.327 1E29.0.68.327 1E2A.0.48.32E 1E2B.0.68.32E
    1E2C.0.49.330 1E2D.0.69.330 1E2E.0.49.308.301 1E2F.0.69.308.301 1E30.0.4B.301 1E31.0.6B.301
    1E32.0.4B.323 1E33.0.6B.323 1E34.0.4B.331 1E35.0.6B.331 1E36.0.4C.323 1E37.0.6C.323
    1E38.0.4C.323.304 1E39.0.6C.323.304 1E3A.0.4C.331 1E3B.0.6C.331 1E3C.0.4C.32D 1E3D.0.6C.32D
    1E3E.0.4D.301 1E3F.0.6D.301 1E40.0.4D.307 1E41.0.6D.307 1E42.0.4D.323 1E43.0.6D.323
    1E44.0.4E.307 1E45.0.6E.307 1E46.0.4E.323 1E47.0.6E.323 1E48.0.4E.331 1E49.0.6E.331
    1E4A.0.4E.32D 1E4B.0.6E.32D 1E4C.0.4F.303.301 1E4D.0.6F.303.301 1E4E.0.4F.303.308
    1E4F.0.6F.303.308 1E50.0.4F.304.300 1E51.0.6F.304.300 1E52.0.4F.304.301 1E53.0.6F.304.301
    1E54.0.50.301 1E55.0.70.301 1E56.0.50.307 1E57.0.70.307 1E58.0.52.307 1E59.0.72.307
    1E5A.0.52.323 1E5B.0.72.323 1E5C.0.52.323.304 1E5D.0.72.323.304 1E5E.0.52.331 1E5F.0.72.331
    1E60.0.53.307 1E61.0.73.307 1E62.0.53.323 1E63.0.73.323 1E64.0.53.301.307 1E65.0.73.301.307
    1E66.0.53.30C.307 1E67.0.73.30C.307 1E68.0.53.323.307 1E69.0.73.323.307 1E6A.0.54.307
    1E6B.0.74.307 1E6C.0.54.323 1E6D.0.74.323 1E6E.0.54.331 1E6F.0.74.331 1E70.0.54.32D
    1E71.0.74.32D 1E72.0.55.324 1E73.0.75.324 1E74.0.55.330 1E75.0.75.330 1E76.0.55.32D
    1E77.0.75.32D 1E78.0.55.303.301 1E79.0.75.303.301 1E7A.0.55.304.308 1E7B.0.75.304.308
    1E7C.0.56.303 1E7D.0.76.303 1E7E.0.56.323 1E7F.0.76.323 1E80.0.57.300 1E81.0.77.300
    1E82.0.57.301 1E83.0.77.301 1E84.0.57.308 1E85.0.77.308 1E86.0.57.307 1E87.0.77.307
    1E88.0.57.323 1E89.0.77.323 1E8A.0.58.307 1E8B.0.78.307 1E8C.0.58.308 1E8D.0.78.308
    1E8E.0.59.307 1E8F.0.79.307 1E90.0.5A.302 1E91.0.7A.302 1E92.0.5A.323 1E93.0.7A.323
    1E94.0.5A.331 1E95.0.7A.331 1E96.0.68.331 1E97.0.74.308 1E98.0.77.30A 1E99.0.79.30A
    1E9A.0.61.2BE 1E9B.0.73.307 1EA0.0.41.323 1EA1.0.61.323 1EA2.0.41.309 1EA3.0.61.309
    1EA4.0.41.302.301 1EA5.0.61.302.301 1EA6.0.41.302.300 1EA7.0.61.302.300 1EA8.0.41.302.309
    1EA9.0.61.302.309 1EAA.0.41.302.303 1EAB.0.61.302.303 1EAC.0.41.323.302 1EAD.0.61.323.302
    1EAE.0.41.306.301 1EAF.0.61.306.301 1EB0.0.41.306.300 1EB1.0.61.306.300 1EB2.0.41.306.309
    1EB3.0.61.306.309 1EB4.0.41.306.303 1EB5.0.61.306.303 1EB6.0.41.323.306 1EB7.0.61.323.306
    1EB8.0.45.323 1EB9.0.65.323 1EBA.0.45.309 1EBB.0.65.309 1EBC.0.45.303 1EBD.0.65.303
    1EBE.0.45.302.301 1EBF.0.65.302.301 1EC0.0.45.302.300 1EC1.0.65.302.300 1EC2.0.45.302.309
    1EC3.0.65.302.309 1EC4.0.45.302.303 1EC5.0.65.302.303 1EC6.0.45.323.302 1EC7.0.65.323.302
    1EC8.0.49.309 1EC9.0.69.309 1ECA.0.49.323 1ECB.0.69.323 1ECC.0.4F.323 1ECD.0.6F.323
    1ECE.0.4F.309 1ECF.0.6F.309 1ED0.0.4F.302.301 1ED1.0.6F.302.301 1ED2.0.4F.302.300
    1ED3.0.6F.302.300 1ED4.0.4F.302.309 1ED5.0.6F.302.309 1ED6.0.4F.302.303 1ED7.0.6F.302.303
    1ED8.0.4F.323.302 1ED9.0.6F.323.302 1EDA.0.4F.31B.301 1EDB.0.6F.31B.301 1EDC.0.4F.31B.300
    1EDD.0.6F.31B.300 1EDE.0.4F.31B.309 1EDF.0.6F.31B.309 1EE0.0.4F.31B.303 1EE1.0.6F.31B.303
    1EE2.0.4F.31B.323 1EE3.0.6F.31B.323 1EE4.0.55.323 1EE5.0.75.323 1EE6.0.55.309 1EE7.0.75.309
    1EE8.0.55.31B.301 1EE9.0.75.31B.301 1EEA.0.55.31B.300 1EEB.0.75.31B.300 1EEC.0.55.31B.309
    1EED.0.75.31B.309 1EEE.0.55.31B.303 1EEF.0.75.31B.303 1EF0.0.55.31B.323 1EF1.0.75.31B.323
    1EF2.0.59.300 1EF3.0.79.300 1EF4.0.59.323 1EF5.0.79.323 1EF6.0.59.309 1EF7.0.79.309
    1EF8.0.59.303 1EF9.0.79.303 1F00.1.3B1.313 1F02.0.3B1.313.300 1F03.0.3B1.314.300
    1F04.0.3B1.313.301 1F05.0.3B1.314.301 1F06.0.3B1.313.342 1F07.0.3B1.314.342 1F08.1.391.313
    1F0A.0.391.313.300 1F0B.0.391.314.300 1F0C.0.391.313.301 1F0D.0.391.314.301
    1F0E.0.391.313.342 1F0F.0.391.314.342 1F10.1.3B5.313 1F12.0.3B5.313.300 1F13.0.3B5.314.300
    1F14.0.3B5.313.301 1F15.0.3B5.314.301 1F18.1.395.313 1F1A.0.395.313.300 1F1B.0.395.314.300
    1F1C.0.395.313.301 1F1D.0.395.314.301 1F20.1.3B7.313 1F22.0.3B7.313.300 1F23.0.3B7.314.300
    1F24.0.3B7.313.301 1F25.0.3B7.314.301 1F26.0.3B7.313.342 1F27.0.3B7.314.342 1F28.1.397.313
    1F2A.0.397.313.300 1F2B.0.397.314.300 1F2C.0.397.313.301 1F2D.0.397.314.301
    1F2E.0.397.313.342 1F2F.0.397.314.342 1F30.1.3B9.313 1F32.0.3B9.313.300 1F33.0.3B9.314.300
    1F34.0.3B9.313.301 1F35.0.3B9.314.301 1F36.0.3B9.313.342 1F37.0.3B9.314.342 1F38.1.399.313
    1F3A.0.399.313.300 1F3B.0.399.314.300 1F3C.0.399.313.301 1F3D.0.399.314.301
    1F3E.0.399.313.342 1F3F.0.399.314.342 1F40.1.3BF.313 1F42.0.3BF.313.300 1F43.0.3BF.314.300
    1F44.0.3BF.313.301 1F45.0.3BF.314.301 1F48.1.39F.313 1F4A.0.39F.313.300 1F4B.0.39F.314.300
    1F4C.0.39F.313.301 1F4D.0.39F.314.301 1F50.1.3C5.313 1F52.0.3C5.313.300 1F53.0.3C5.314.300
    1F54.0.3C5.313.301 1F55.0.3C5.314.301 1F56.0.3C5.313.342 1F57.0.3C5.314.342 1F59.0.3A5.314
    1F5B.0.3A5.314.300 1F5D.0.3A5.314.301 1F5F.0.3A5.314.342 1F60.1.3C9.313 1F62.0.3C9.313.300
    1F63.0.3C9.314.300 1F64.0.3C9.313.301 1F65.0.3C9.314.301 1F66.0.3C9.313.342
    1F67.0.3C9.314.342 1F68.1.3A9.313 1F6A.0.3A9.313.300 1F6B.0.3A9.314.300 1F6C.0.3A9.313.301
    1F6D.0.3A9.314.301 1F6E.0.3A9.313.342 1F6F.0.3A9.314.342 1F70.1.3B1.300 1F72.1.3B5.300
    1F74.1.3B7.300 1F76.1.3B9.300 1F78.1.3BF.300 1F7A.1.3C5.300 1F7C.1.3C9.300
    1F80.0.3B1.313.345 1F81.0.3B1.314.345 1F82.0.3B1.313.300.345 1F83.0.3B1.314.300.345
    1F84.0.3B1.313.301.345 1F85.0.3B1.314.301.345 1F86.0.3B1.313.342.345 1F87.0.3B1.314.342.345
    1F88.0.391.313.345 1F89.0.391.314.345 1F8A.0.391.313.300.345 1F8B.0.391.314.300.345
    1F8C.0.391.313.301.345 1F8D.0.391.314.301.345 1F8E.0.391.313.342.345 1F8F.0.391.314.342.345
    1F90.0.3B7.313.345 1F91.0.3B7.314.345 1F92.0.3B7.313.300.345 1F93.0.3B7.314.300.345
    1F94.0.3B7.313.301.345 1F95.0.3B7.314.301.345 1F96.0.3B7.313.342.345 1F97.0.3B7.314.342.345
    1F98.0.397.313.345 1F99.0.397.314.345 1F9A.0.397.313.300.345 1F9B.0.397.314.300.345
    1F9C.0.397.313.301.345 1F9D.0.397.314.301.345 1F9E.0.397.313.342.345 1F9F.0.397.314.342.345
    1FA0.0.3C9.313.345 1FA1.0.3C9.314.345 1FA2.0.3C9.313.300.345 1FA3.0.3C9.314.300.345
    1FA4.0.3C9.313.301.345 1FA5.0.3C9.314.301.345 1FA6.0.3C9.313.342.345 1FA7.0.3C9.314.342.345
    1FA8.0.3A9.313.345 1FA9.0.3A9.314.345 1FAA.0.3A9.313.300.345 1FAB.0.3A9.314.300.345
    1FAC.0.3A9.313.301.345 1FAD.0.3A9.314.301.345 1FAE.0.3A9.313.342.345 1FAF.0.3A9.314.342.345
    1FB0.0.3B1.306 1FB1.0.3B1.304 1FB2.0.3B1.300.345 1FB3.0.3B1.345 1FB4.0.3B1.301.345
    1FB6.0.3B1.342 1FB7.0.3B1.342.345 1FB8.0.391.306 1FB9.0.391.304 1FBA.1.391.300
    1FBC.0.391.345 1FBE.0.3B9 1FC2.0.3B7.300.345 1FC3.0.3B7.345 1FC4.0.3B7.301.345
    1FC6.0.3B7.342 1FC7.0.3B7.342.345 1FC8.1.395.300 1FCA.1.397.300 1FCC.0.397.345
    1FD0.0.3B9.306 1FD1.0.3B9.304 1FD2.1.3B9.308.300 1FD6.0.3B9.342 1FD7.0.3B9.308.342
    1FD8.0.399.306 1FD9.0.399.304 1FDA.1.399.300 1FE0.0.3C5.306 1FE1.0.3C5.304
    1FE2.1.3C5.308.300 1FE4.1.3C1.313 1FE6.0.3C5.342 1FE7.0.3C5.308.342 1FE8.0.3A5.306
    1FE9.0.3A5.304 1FEA.1.3A5.300 1FEC.0.3A1.314 1FF2.0.3C9.300.345 1FF3.0.3C9.345
    1FF4.0.3C9.301.345 1FF6.0.3C9.342 1FF7.0.3C9.342.345 1FF8.1.39F.300 1FFA.1.3A9.300
    1FFC.0.3A9.345 2071.0.69 207F.0.6E 2090.0.61 2091.0.65 2092.0.6F 2093.0.78 2094.0.259
    2095.0.68 2096.3.6B 209A.0.70 209B.1.73 2102.0.43 2107.0.190 210A.0.67 210B.0.48 210C.0.48
    210D.0.48 210E.0.68 210F.0.127 2110.0.49 2111.0.49 2112.0.4C 2113.0.6C 2115.0.4E 2119.2.50
    211C.0.52 211D.0.52 2124.0.5A 2126.0.3A9 2128.0.5A 212A.0.4B 212B.0.41.30A 212C.1.42
    212F.0.65 2130.1.45 2133.0.4D 2134.0.6F 2135.3.5D0 2139.0.69 213C.0.3C0 213D.0.3B3
    213E.0.393 213F.0.3A0 2145.0.44 2146.1.64 2148.1.69 2160.0.49 2161.0.49.49 2162.0.49.49.49
    2163.0.49.56 2164.0.56 2165.0.56.49 2166.0.56.49.49 2167.0.56.49.49.49 2168.0.49.58
    2169.0.58 216A.0.58.49 216B.0.58.49.49 216C.0.4C 216D.1.43 216F.0.4D 2170.0.69 2171.0.69.69
    2172.0.69.69.69 2173.0.69.76 2174.0.76 2175.0.76.69 2176.0.76.69.69 2177.0.76.69.69.69
    2178.0.69.78 2179.0.78 217A.0.78.69 217B.0.78.69.69 217C.0.6C 217D.1.63 217F.0.6D 2C7C.0.6A
    2C7D.0.56 2D6F.0.2D61 3038.0.5341 3039.1.5344 304C.0.304B.3099 304E.0.304D.3099
    3050.0.304F.3099 3052.0.3051.3099 3054.0.3053.3099 3056.0.3055.3099 3058.0.3057.3099
    305A.0.3059.3099 305C.0.305B.3099 305E.0.305D.3099 3060.0.305F.3099 3062.0.3061.3099
    3065.0.3064.3099 3067.0.3066.3099 3069.0.3068.3099 3070.1.306F.3099 3073.1.3072.3099
    3076.1.3075.3099 3079.1.3078.3099 307C.1.307B.3099 3094.0.3046.3099 309E.0.309D.3099
    309F.0.3088.308A 30AC.0.30AB.3099 30AE.0.30AD.3099 30B0.0.30AF.3099 30B2.0.30B1.3099
    30B4.0.30B3.3099 30B6.0.30B5.3099 30B8.0.30B7.3099 30BA.0.30B9.3099 30BC.0.30BB.3099
    30BE.0.30BD.3099 30C0.0.30BF.3099 30C2.0.30C1.3099 30C5.0.30C4.3099 30C7.0.30C6.3099
    30C9.0.30C8.3099 30D0.1.30CF.3099 30D3.1.30D2.3099 30D6.1.30D5.3099 30D9.1.30D8.3099
    30DC.1.30DB.3099 30F4.0.30A6.3099 30F7.0.30EF.3099 30F8.0.30F0.3099 30F9.0.30F1.3099
    30FA.0.30F2.3099 30FE.0.30FD.3099 30FF.0.30B3.30C8 3131.1.1100 3133.0.11AA 3134.0.1102
    3135.1.11AC 3137.2.1103 313A.5.11B0 3140.0.111A 3141.2.1106 3144.0.1121 3145.9.1109
    314F.14.1161 3164.0.1160 3165.1.1114 3167.1.11C7 3169.0.11CC 316A.0.11CE 316B.0.11D3
    316C.0.11D7 316D.0.11D9 316E.0.111C 316F.0.11DD 3170.0.11DF 3171.1.111D 3173.0.1120
    3174.1.1122 3176.0.1127 3177.0.1129 3178.4.112B 317D.0.1132 317E.0.1136 317F.0.1140
    3180.0.1147 3181.0.114C 3182.1.11F1 3184.2.1157 3187.1.1184 3189.0.1188 318A.1.1191
    318C.0.1194 318D.0.119E 318E.0.11A1 A69C.0.44A A69D.0.44C A770.0.A76F A7F2.0.43 A7F3.0.46
    A7F4.0.51 A7F8.0.126 A7F9.0.153 AB5C.0.A727 AB5D.0.AB37 AB5E.0.26B AB5F.0.AB52 AB69.0.28D
    F900.0.8C48 F901.0.66F4 F902.0.8ECA F903.0.8CC8 F904.0.6ED1 F905.0.4E32 F906.0.53E5
    F907.0.9F9C F908.0.9F9C F909.0.5951 F90A.0.91D1 F90B.0.5587 F90C.0.5948 F90D.0.61F6
    F90E.0.7669 F90F.0.7F85 F910.0.863F F911.0.87BA F912.0.88F8 F913.0.908F F914.0.6A02
    F915.0.6D1B F916.0.70D9 F917.0.73DE F918.0.843D F919.0.916A F91A.0.99F1 F91B.0.4E82
    F91C.0.5375 F91D.0.6B04 F91E.0.721B F91F.0.862D F920.0.9E1E F921.0.5D50 F922.0.6FEB
    F923.0.85CD F924.0.8964 F925.0.62C9 F926.0.81D8 F927.0.881F F928.0.5ECA F929.0.6717
    F92A.0.6D6A F92B.0.72FC F92C.0.90CE F92D.0.4F86 F92E.0.51B7 F92F.0.52DE F930.0.64C4
    F931.0.6AD3 F932.0.7210 F933.0.76E7 F934.0.8001 F935.0.8606 F936.0.865C F937.0.8DEF
    F938.0.9732 F939.0.9B6F F93A.0.9DFA F93B.0.788C F93C.0.797F F93D.0.7DA0 F93E.0.83C9
    F93F.0.9304 F940.0.9E7F F941.0.8AD6 F942.0.58DF F943.0.5F04 F944.0.7C60 F945.0.807E
    F946.0.7262 F947.0.78CA F948.0.8CC2 F949.0.96F7 F94A.0.58D8 F94B.0.5C62 F94C.0.6A13
    F94D.0.6DDA F94E.0.6F0F F94F.0.7D2F F950.0.7E37 F951.0.964B F952.0.52D2 F953.0.808B
    F954.0.51DC F955.0.51CC F956.0.7A1C F957.0.7DBE F958.0.83F1 F959.0.9675 F95A.0.8B80
    F95B.0.62CF F95C.0.6A02 F95D.0.8AFE F95E.0.4E39 F95F.0.5BE7 F960.0.6012 F961.0.7387
    F962.0.7570 F963.0.5317 F964.0.78FB F965.0.4FBF F966.0.5FA9 F967.0.4E0D F968.0.6CCC
    F969.0.6578 F96A.0.7D22 F96B.0.53C3 F96C.0.585E F96D.0.7701 F96E.0.8449 F96F.0.8AAA
    F970.0.6BBA F971.0.8FB0 F972.0.6C88 F973.0.62FE F974.0.82E5 F975.0.63A0 F976.0.7565
    F977.0.4EAE F978.0.5169 F979.0.51C9 F97A.0.6881 F97B.0.7CE7 F97C.0.826F F97D.0.8AD2
    F97E.0.91CF F97F.0.52F5 F980.0.5442 F981.0.5973 F982.0.5EEC F983.0.65C5 F984.0.6FFE
    F985.0.792A F986.0.95AD F987.0.9A6A F988.0.9E97 F989.0.9ECE F98A.0.529B F98B.0.66C6
    F98C.0.6B77 F98D.0.8F62 F98E.0.5E74 F98F.0.6190 F990.0.6200 F991.0.649A F992.0.6F23
    F993.0.7149 F994.0.7489 F995.0.79CA F996.0.7DF4 F997.0.806F F998.0.8F26 F999.0.84EE
    F99A.0.9023 F99B.0.934A F99C.0.5217 F99D.0.52A3 F99E.0.54BD F99F.0.70C8 F9A0.0.88C2
    F9A1.0.8AAA F9A2.0.5EC9 F9A3.0.5FF5 F9A4.0.637B F9A5.0.6BAE F9A6.0.7C3E F9A7.0.7375
    F9A8.0.4EE4 F9A9.0.56F9 F9AA.0.5BE7 F9AB.0.5DBA F9AC.0.601C F9AD.0.73B2 F9AE.0.7469
    F9AF.0.7F9A F9B0.0.8046 F9B1.0.9234 F9B2.0.96F6 F9B3.0.9748 F9B4.0.9818 F9B5.0.4F8B
    F9B6.0.79AE F9B7.0.91B4 F9B8.0.96B8 F9B9.0.60E1 F9BA.0.4E86 F9BB.0.50DA F9BC.0.5BEE
    F9BD.0.5C3F F9BE.0.6599 F9BF.0.6A02 F9C0.0.71CE F9C1.0.7642 F9C2.0.84FC F9C3.0.907C
    F9C4.0.9F8D F9C5.0.6688 F9C6.0.962E F9C7.0.5289 F9C8.0.677B F9C9.0.67F3 F9CA.0.6D41
    F9CB.0.6E9C F9CC.0.7409 F9CD.0.7559 F9CE.0.786B F9CF.0.7D10 F9D0.0.985E F9D1.0.516D
    F9D2.0.622E F9D3.0.9678 F9D4.0.502B F9D5.0.5D19 F9D6.0.6DEA F9D7.0.8F2A F9D8.0.5F8B
    F9D9.0.6144 F9DA.0.6817 F9DB.0.7387 F9DC.0.9686 F9DD.0.5229 F9DE.0.540F F9DF.0.5C65
    F9E0.0.6613 F9E1.0.674E F9E2.0.68A8 F9E3.0.6CE5 F9E4.0.7406 F9E5.0.75E2 F9E6.0.7F79
    F9E7.0.88CF F9E8.0.88E1 F9E9.0.91CC F9EA.0.96E2 F9EB.0.533F F9EC.0.6EBA F9ED.0.541D
    F9EE.0.71D0 F9EF.0.7498 F9F0.0.85FA F9F1.0.96A3 F9F2.0.9C57 F9F3.0.9E9F F9F4.0.6797
    F9F5.0.6DCB F9F6.0.81E8 F9F7.0.7ACB F9F8.0.7B20 F9F9.0.7C92 F9FA.0.72C0 F9FB.0.7099
    F9FC.0.8B58 F9FD.0.4EC0 F9FE.0.8336 F9FF.0.523A FA00.0.5207 FA01.0.5EA6 FA02.0.62D3
    FA03.0.7CD6 FA04.0.5B85 FA05.0.6D1E FA06.0.66B4 FA07.0.8F3B FA08.0.884C FA09.0.964D
    FA0A.0.898B FA0B.0.5ED3 FA0C.0.5140 FA0D.0.55C0 FA10.0.585A FA12.0.6674 FA15.0.51DE
    FA16.0.732A FA17.0.76CA FA18.0.793C FA19.0.795E FA1A.0.7965 FA1B.0.798F FA1C.0.9756
    FA1D.0.7CBE FA1E.0.7FBD FA20.0.8612 FA22.0.8AF8 FA25.0.9038 FA26.0.90FD FA2A.0.98EF
    FA2B.0.98FC FA2C.0.9928 FA2D.0.9DB4 FA2E.0.90DE FA2F.0.96B7 FA30.0.4FAE FA31.0.50E7
    FA32.0.514D FA33.0.52C9 FA34.0.52E4 FA35.0.5351 FA36.0.559D FA37.0.5606 FA38.0.5668
    FA39.0.5840 FA3A.0.58A8 FA3B.0.5C64 FA3C.0.5C6E FA3D.0.6094 FA3E.0.6168 FA3F.0.618E
    FA40.0.61F2 FA41.0.654F FA42.0.65E2 FA43.0.6691 FA44.0.6885 FA45.0.6D77 FA46.0.6E1A
    FA47.0.6F22 FA48.0.716E FA49.0.722B FA4A.0.7422 FA4B.0.7891 FA4C.0.793E FA4D.0.7949
    FA4E.0.7948 FA4F.0.7950 FA50.0.7956 FA51.0.795D FA52.1.798D FA54.0.7A40 FA55.0.7A81
    FA56.0.7BC0 FA57.0.7DF4 FA58.0.7E09 FA59.0.7E41 FA5A.0.7F72 FA5B.0.8005 FA5C.0.81ED
    FA5D.0.8279 FA5E.0.8279 FA5F.0.8457 FA60.0.8910 FA61.0.8996 FA62.0.8B01 FA63.0.8B39
    FA64.0.8CD3 FA65.0.8D08 FA66.0.8FB6 FA67.0.9038 FA68.0.96E3 FA69.0.97FF FA6A.0.983B
    FA6B.0.6075 FA6C.0.242EE FA6D.0.8218 FA70.0.4E26 FA71.0.51B5 FA72.0.5168 FA73.0.4F80
    FA74.0.5145 FA75.0.5180 FA76.0.52C7 FA77.0.52FA FA78.0.559D FA79.0.5555 FA7A.0.5599
    FA7B.0.55E2 FA7C.0.585A FA7D.0.58B3 FA7E.0.5944 FA7F.0.5954 FA80.0.5A62 FA81.0.5B28
    FA82.0.5ED2 FA83.0.5ED9 FA84.0.5F69 FA85.0.5FAD FA86.0.60D8 FA87.0.614E FA88.0.6108
    FA89.0.618E FA8A.0.6160 FA8B.0.61F2 FA8C.0.6234 FA8D.0.63C4 FA8E.0.641C FA8F.0.6452
    FA90.0.6556 FA91.0.6674 FA92.0.6717 FA93.0.671B FA94.0.6756 FA95.0.6B79 FA96.0.6BBA
    FA97.0.6D41 FA98.0.6EDB FA99.0.6ECB FA9A.0.6F22 FA9B.0.701E FA9C.0.716E FA9D.0.77A7
    FA9E.0.7235 FA9F.0.72AF FAA0.0.732A FAA1.0.7471 FAA2.0.7506 FAA3.0.753B FAA4.0.761D
    FAA5.0.761F FAA6.0.76CA FAA7.0.76DB FAA8.0.76F4 FAA9.0.774A FAAA.0.7740 FAAB.0.78CC
    FAAC.0.7AB1 FAAD.0.7BC0 FAAE.0.7C7B FAAF.0.7D5B FAB0.0.7DF4 FAB1.0.7F3E FAB2.0.8005
    FAB3.0.8352 FAB4.0.83EF FAB5.0.8779 FAB6.0.8941 FAB7.0.8986 FAB8.0.8996 FAB9.0.8ABF
    FABA.0.8AF8 FABB.0.8ACB FABC.0.8B01 FABD.0.8AFE FABE.0.8AED FABF.0.8B39 FAC0.0.8B8A
    FAC1.0.8D08 FAC2.0.8F38 FAC3.0.9072 FAC4.0.9199 FAC5.0.9276 FAC6.0.967C FAC7.0.96E3
    FAC8.0.9756 FAC9.0.97DB FACA.0.97FF FACB.0.980B FACC.0.983B FACD.0.9B12 FACE.0.9F9C
    FACF.0.2284A FAD0.0.22844 FAD1.0.233D5 FAD2.0.3B9D FAD3.0.4018 FAD4.0.4039 FAD5.0.25249
    FAD6.0.25CD0 FAD7.0.27ED3 FAD8.0.9F43 FAD9.0.9F8E FB00.0.66.66 FB01.0.66.69 FB02.0.66.6C
    FB03.0.66.66.69 FB04.0.66.66.6C FB05.0.73.74 FB06.0.73.74 FB13.0.574.576 FB14.0.574.565
    FB15.0.574.56B FB16.0.57E.576 FB17.0.574.56D FB1D.0.5D9.5B4 FB1F.0.5F2.5B7 FB20.0.5E2
    FB21.0.5D0 FB22.1.5D3 FB24.2.5DB FB27.0.5E8 FB28.0.5EA FB2A.1.5E9.5C1 FB2C.1.5E9.5BC.5C1
    FB2E.1.5D0.5B7 FB30.0.5D0.5BC FB31.0.5D1.5BC FB32.0.5D2.5BC FB33.0.5D3.5BC FB34.0.5D4.5BC
    FB35.0.5D5.5BC FB36.0.5D6.5BC FB38.0.5D8.5BC FB39.0.5D9.5BC FB3A.0.5DA.5BC FB3B.0.5DB.5BC
    FB3C.0.5DC.5BC FB3E.0.5DE.5BC FB40.0.5E0.5BC FB41.0.5E1.5BC FB43.0.5E3.5BC FB44.0.5E4.5BC
    FB46.0.5E6.5BC FB47.0.5E7.5BC FB48.0.5E8.5BC FB49.0.5E9.5BC FB4A.0.5EA.5BC FB4B.0.5D5.5B9
    FB4C.0.5D1.5BF FB4D.0.5DB.5BF FB4E.0.5E4.5BF FB4F.0.5D0.5DC FB50.0.671 FB51.0.671 FB52.0.67B
    FB53.0.67B FB54.0.67B FB55.0.67B FB56.0.67E FB57.0.67E FB58.0.67E FB59.0.67E FB5A.0.680
    FB5B.0.680 FB5C.0.680 FB5D.0.680 FB5E.0.67A FB5F.0.67A FB60.0.67A FB61.0.67A FB62.0.67F
    FB63.0.67F FB64.0.67F FB65.0.67F FB66.0.679 FB67.0.679 FB68.0.679 FB69.0.679 FB6A.0.6A4
    FB6B.0.6A4 FB6C.0.6A4 FB6D.0.6A4 FB6E.0.6A6 FB6F.0.6A6 FB70.0.6A6 FB71.0.6A6 FB72.0.684
    FB73.0.684 FB74.0.684 FB75.0.684 FB76.0.683 FB77.0.683 FB78.0.683 FB79.0.683 FB7A.0.686
    FB7B.0.686 FB7C.0.686 FB7D.1.686 FB7F.0.687 FB80.0.687 FB81.0.687 FB82.0.68D FB83.0.68D
    FB84.0.68C FB85.0.68C FB86.0.68E FB87.0.68E FB88.0.688 FB89.0.688 FB8A.0.698 FB8B.0.698
    FB8C.0.691 FB8D.0.691 FB8E.0.6A9 FB8F.0.6A9 FB90.0.6A9 FB91.0.6A9 FB92.0.6AF FB93.0.6AF
    FB94.0.6AF FB95.0.6AF FB96.0.6B3 FB97.0.6B3 FB98.0.6B3 FB99.0.6B3 FB9A.0.6B1 FB9B.0.6B1
    FB9C.0.6B1 FB9D.0.6B1 FB9E.0.6BA FB9F.1.6BA FBA1.0.6BB FBA2.0.6BB FBA3.0.6BB FBA4.0.6D5.654
    FBA5.0.6D5.654 FBA6.0.6C1 FBA7.0.6C1 FBA8.0.6C1 FBA9.0.6C1 FBAA.0.6BE FBAB.0.6BE FBAC.0.6BE
    FBAD.0.6BE FBAE.0.6D2 FBAF.0.6D2 FBB0.0.6D2.654 FBB1.0.6D2.654 FBD3.0.6AD FBD4.0.6AD
    FBD5.0.6AD FBD6.0.6AD FBD7.0.6C7 FBD8.0.6C7 FBD9.0.6C6 FBDA.0.6C6 FBDB.0.6C8 FBDC.0.6C8
    FBDD.0.6C7.674 FBDE.0.6CB FBDF.0.6CB FBE0.0.6C5 FBE1.0.6C5 FBE2.0.6C9 FBE3.0.6C9 FBE4.0.6D0
    FBE5.0.6D0 FBE6.0.6D0 FBE7.0.6D0 FBE8.0.649 FBE9.0.649 FBEA.0.64A.654.627 FBEB.0.64A.654.627
    FBEC.0.64A.654.6D5 FBED.0.64A.654.6D5 FBEE.0.64A.654.648 FBEF.0.64A.654.648
    FBF0.0.64A.654.6C7 FBF1.0.64A.654.6C7 FBF2.0.64A.654.6C6 FBF3.0.64A.654.6C6
    FBF4.0.64A.654.6C8 FBF5.0.64A.654.6C8 FBF6.0.64A.654.6D0 FBF7.0.64A.654.6D0
    FBF8.0.64A.654.6D0 FBF9.0.64A.654.649 FBFA.0.64A.654.649 FBFB.0.64A.654.649 FBFC.0.6CC
    FBFD.0.6CC FBFE.0.6CC FBFF.0.6CC FC00.1.64A.654.62C FC02.0.64A.654.645 FC03.1.64A.654.649
    FC05.2.628.62C FC08.0.628.645 FC09.1.628.649 FC0B.2.62A.62C FC0E.0.62A.645 FC0F.1.62A.649
    FC11.0.62B.62C FC12.0.62B.645 FC13.1.62B.649 FC15.0.62C.62D FC16.0.62C.645 FC17.0.62D.62C
    FC18.0.62D.645 FC19.1.62E.62C FC1B.0.62E.645 FC1C.2.633.62C FC1F.0.633.645 FC20.0.635.62D
    FC21.0.635.645 FC22.2.636.62C FC25.0.636.645 FC26.0.637.62D FC27.0.637.645 FC28.0.638.645
    FC29.0.639.62C FC2A.0.639.645 FC2B.0.63A.62C FC2C.0.63A.645 FC2D.2.641.62C FC30.0.641.645
    FC31.1.641.649 FC33.0.642.62D FC34.0.642.645 FC35.1.642.649 FC37.0.643.627 FC38.2.643.62C
    FC3B.1.643.644 FC3D.1.643.649 FC3F.2.644.62C FC42.0.644.645 FC43.1.644.649 FC45.2.645.62C
    FC48.0.645.645 FC49.1.645.649 FC4B.2.646.62C FC4E.0.646.645 FC4F.1.646.649 FC51.0.647.62C
    FC52.0.647.645 FC53.1.647.649 FC55.2.64A.62C FC58.0.64A.645 FC59.1.64A.649 FC5B.0.630.670
    FC5C.0.631.670 FC5D.0.649.670 FC64.1.64A.654.631 FC66.1.64A.654.645 FC68.1.64A.654.649
    FC6A.1.628.631 FC6C.1.628.645 FC6E.1.628.649 FC70.1.62A.631 FC72.1.62A.645 FC74.1.62A.649
    FC76.1.62B.631 FC78.1.62B.645 FC7A.1.62B.649 FC7C.1.641.649 FC7E.1.642.649 FC80.0.643.627
    FC81.1.643.644 FC83.1.643.649 FC85.0.644.645 FC86.1.644.649 FC88.0.645.627 FC89.0.645.645
    FC8A.1.646.631 FC8C.1.646.645 FC8E.1.646.649 FC90.0.649.670 FC91.1.64A.631 FC93.1.64A.645
    FC95.1.64A.649 FC97.2.64A.654.62C FC9A.0.64A.654.645 FC9B.0.64A.654.647 FC9C.2.628.62C
    FC9F.0.628.645 FCA0.0.628.647 FCA1.2.62A.62C FCA4.0.62A.645 FCA5.0.62A.647 FCA6.0.62B.645
    FCA7.0.62C.62D FCA8.0.62C.645 FCA9.0.62D.62C FCAA.0.62D.645 FCAB.0.62E.62C FCAC.0.62E.645
    FCAD.2.633.62C FCB0.0.633.645 FCB1.1.635.62D FCB3.0.635.645 FCB4.2.636.62C FCB7.0.636.645
    FCB8.0.637.62D FCB9.0.638.645 FCBA.0.639.62C FCBB.0.639.645 FCBC.0.63A.62C FCBD.0.63A.645
    FCBE.2.641.62C FCC1.0.641.645 FCC2.0.642.62D FCC3.0.642.645 FCC4.2.643.62C FCC7.1.643.644
    FCC9.2.644.62C FCCC.0.644.645 FCCD.0.644.647 FCCE.2.645.62C FCD1.0.645.645 FCD2.2.646.62C
    FCD5.0.646.645 FCD6.0.646.647 FCD7.0.647.62C FCD8.0.647.645 FCD9.0.647.670 FCDA.2.64A.62C
    FCDD.0.64A.645 FCDE.0.64A.647 FCDF.0.64A.654.645 FCE0.0.64A.654.647 FCE1.0.628.645
    FCE2.0.628.647 FCE3.0.62A.645 FCE4.0.62A.647 FCE5.0.62B.645 FCE6.0.62B.647 FCE7.0.633.645
    FCE8.0.633.647 FCE9.0.634.645 FCEA.0.634.647 FCEB.1.643.644 FCED.0.644.645 FCEE.0.646.645
    FCEF.0.646.647 FCF0.0.64A.645 FCF1.0.64A.647 FCF2.0.640.64E.651 FCF3.0.640.64F.651
    FCF4.0.640.650.651 FCF5.1.637.649 FCF7.1.639.649 FCF9.1.63A.649 FCFB.1.633.649
    FCFD.1.634.649 FCFF.1.62D.649 FD01.1.62C.649 FD03.1.62E.649 FD05.1.635.649 FD07.1.636.649
    FD09.2.634.62C FD0C.0.634.645 FD0D.0.634.631 FD0E.0.633.631 FD0F.0.635.631 FD10.0.636.631
    FD11.1.637.649 FD13.1.639.649 FD15.1.63A.649 FD17.1.633.649 FD19.1.634.649 FD1B.1.62D.649
    FD1D.1.62C.649 FD1F.1.62E.649 FD21.1.635.649 FD23.1.636.649 FD25.2.634.62C FD28.0.634.645
    FD29.0.634.631 FD2A.0.633.631 FD2B.0.635.631 FD2C.0.636.631 FD2D.2.634.62C FD30.0.634.645
    FD31.0.633.647 FD32.0.634.647 FD33.0.637.645 FD34.2.633.62C FD37.2.634.62C FD3A.0.637.645
    FD3B.0.638.645 FD3C.0.627.64B FD3D.0.627.64B FD50.0.62A.62C.645 FD51.0.62A.62D.62C
    FD52.0.62A.62D.62C FD53.0.62A.62D.645 FD54.0.62A.62E.645 FD55.2.62A.645.62C
    FD58.0.62C.645.62D FD59.0.62C.645.62D FD5A.0.62D.645.64A FD5B.0.62D.645.649
    FD5C.0.633.62D.62C FD5D.0.633.62C.62D FD5E.0.633.62C.649 FD5F.0.633.645.62D
    FD60.0.633.645.62D FD61.0.633.645.62C FD62.0.633.645.645 FD63.0.633.645.645
    FD64.0.635.62D.62D FD65.0.635.62D.62D FD66.0.635.645.645 FD67.0.634.62D.645
    FD68.0.634.62D.645 FD69.0.634.62C.64A FD6A.0.634.645.62E FD6B.0.634.645.62E
    FD6C.0.634.645.645 FD6D.0.634.645.645 FD6E.0.636.62D.649 FD6F.0.636.62E.645
    FD70.0.636.62E.645 FD71.0.637.645.62D FD72.0.637.645.62D FD73.0.637.645.645
    FD74.0.637.645.64A FD75.0.639.62C.645 FD76.0.639.645.645 FD77.0.639.645.645
    FD78.0.639.645.649 FD79.0.63A.645.645 FD7A.0.63A.645.64A FD7B.0.63A.645.649
    FD7C.0.641.62E.645 FD7D.0.641.62E.645 FD7E.0.642.645.62D FD7F.0.642.645.645
    FD80.0.644.62D.645 FD81.0.644.62D.64A FD82.0.644.62D.649 FD83.0.644.62C.62C
    FD84.0.644.62C.62C FD85.0.644.62E.645 FD86.0.644.62E.645 FD87.0.644.645.62D
    FD88.0.644.645.62D FD89.0.645.62D.62C FD8A.0.645.62D.645 FD8B.0.645.62D.64A
    FD8C.0.645.62C.62D FD8D.0.645.62C.645 FD8E.0.645.62E.62C FD8F.0.645.62E.645
    FD92.0.645.62C.62E FD93.0.647.645.62C FD94.0.647.645.645 FD95.0.646.62D.645
    FD96.0.646.62D.649 FD97.0.646.62C.645 FD98.0.646.62C.645 FD99.0.646.62C.649
    FD9A.0.646.645.64A FD9B.0.646.645.649 FD9C.0.64A.645.645 FD9D.0.64A.645.645
    FD9E.0.628.62E.64A FD9F.0.62A.62C.64A FDA0.0.62A.62C.649 FDA1.0.62A.62E.64A
    FDA2.0.62A.62E.649 FDA3.0.62A.645.64A FDA4.0.62A.645.649 FDA5.0.62C.645.64A
    FDA6.0.62C.62D.649 FDA7.0.62C.645.649 FDA8.0.633.62E.649 FDA9.0.635.62D.64A
    FDAA.0.634.62D.64A FDAB.0.636.62D.64A FDAC.0.644.62C.64A FDAD.0.644.645.64A
    FDAE.0.64A.62D.64A FDAF.0.64A.62C.64A FDB0.0.64A.645.64A FDB1.0.645.645.64A
    FDB2.0.642.645.64A FDB3.0.646.62D.64A FDB4.0.642.645.62D FDB5.0.644.62D.645
    FDB6.0.639.645.64A FDB7.0.643.645.64A FDB8.0.646.62C.62D FDB9.0.645.62E.64A
    FDBA.0.644.62C.645 FDBB.0.643.645.645 FDBC.0.644.62C.645 FDBD.0.646.62C.62D
    FDBE.0.62C.62D.64A FDBF.0.62D.62C.64A FDC0.0.645.62C.64A FDC1.0.641.645.64A
    FDC2.0.628.62D.64A FDC3.0.643.645.645 FDC4.0.639.62C.645 FDC5.0.635.645.645
    FDC6.0.633.62E.64A FDC7.0.646.62C.64A FDF0.0.635.644.6D2 FDF1.0.642.644.6D2
    FDF2.0.627.644.644.647 FDF3.0.627.643.628.631 FDF4.0.645.62D.645.62F FDF5.0.635.644.639.645
    FDF6.0.631.633.648.644 FDF7.0.639.644.64A.647 FDF8.0.648.633.644.645 FDF9.0.635.644.649
    FE33.0.5F FE34.0.5F FE4D.0.5F FE4E.0.5F FE4F.0.5F FE71.0.640.64B FE77.0.640.64E
    FE79.0.640.64F FE7B.0.640.650 FE7D.0.640.651 FE7F.0.640.652 FE80.0.621 FE81.0.627.653
    FE82.1.627.653 FE84.0.627.654 FE85.0.648.654 FE86.0.648.654 FE87.0.627.655 FE88.0.627.655
    FE89.0.64A.654 FE8A.0.64A.654 FE8B.0.64A.654 FE8C.0.64A.654 FE8D.0.627 FE8E.1.627 FE90.0.628
    FE91.0.628 FE92.1.628 FE94.1.629 FE96.0.62A FE97.0.62A FE98.1.62A FE9A.0.62B FE9B.0.62B
    FE9C.1.62B FE9E.0.62C FE9F.0.62C FEA0.1.62C FEA2.0.62D FEA3.0.62D FEA4.1.62D FEA6.0.62E
    FEA7.0.62E FEA8.1.62E FEAA.1.62F FEAC.1.630 FEAE.1.631 FEB0.1.632 FEB2.0.633 FEB3.0.633
    FEB4.1.633 FEB6.0.634 FEB7.0.634 FEB8.1.634 FEBA.0.635 FEBB.0.635 FEBC.1.635 FEBE.0.636
    FEBF.0.636 FEC0.1.636 FEC2.0.637 FEC3.0.637 FEC4.1.637 FEC6.0.638 FEC7.0.638 FEC8.1.638
    FECA.0.639 FECB.0.639 FECC.1.639 FECE.0.63A FECF.0.63A FED0.0.63A FED1.0.641 FED2.0.641
    FED3.0.641 FED4.1.641 FED6.0.642 FED7.0.642 FED8.1.642 FEDA.0.643 FEDB.0.643 FEDC.1.643
    FEDE.0.644 FEDF.0.644 FEE0.1.644 FEE2.0.645 FEE3.0.645 FEE4.1.645 FEE6.0.646 FEE7.0.646
    FEE8.1.646 FEEA.0.647 FEEB.0.647 FEEC.1.647 FEEE.1.648 FEF0.1.649 FEF2.0.64A FEF3.0.64A
    FEF4.0.64A FEF5.0.644.627.653 FEF6.1.644.627.653 FEF8.1.644.627.654 FEFA.0.644.627.655
    FEFB.0.644.627 FEFC.0.644.627 FF10.9.30 FF21.19.41 FF3F.0.5F FF41.19.61 FF66.0.30F2
    FF67.0.30A1 FF68.0.30A3 FF69.0.30A5 FF6A.0.30A7 FF6B.0.30A9 FF6C.0.30E3 FF6D.0.30E5
    FF6E.0.30E7 FF6F.0.30C3 FF70.0.30FC FF71.0.30A2 FF72.0.30A4 FF73.0.30A6 FF74.0.30A8
    FF75.1.30AA FF77.0.30AD FF78.0.30AF FF79.0.30B1 FF7A.0.30B3 FF7B.0.30B5 FF7C.0.30B7
    FF7D.0.30B9 FF7E.0.30BB FF7F.0.30BD FF80.0.30BF FF81.0.30C1 FF82.0.30C4 FF83.0.30C6
    FF84.0.30C8 FF85.5.30CA FF8B.0.30D2 FF8C.0.30D5 FF8D.0.30D8 FF8E.0.30DB FF8F.4.30DE
    FF94.0.30E4 FF95.0.30E6 FF96.5.30E8 FF9C.0.30EF FF9D.0.30F3 FF9E.1.3099 FFA0.0.1160
    FFA1.1.1100 FFA3.0.11AA FFA4.0.1102 FFA5.1.11AC FFA7.2.1103 FFAA.5.11B0 FFB0.0.111A
    FFB1.2.1106 FFB4.0.1121 FFB5.9.1109 FFC2.5.1161 FFCA.5.1167 FFD2.5.116D FFDA.2.1173
    10781.1.2D0 10783.0.E6 10784.0.299 10785.0.253 10787.0.2A3 10788.0.AB66 10789.0.2A5
    1078A.0.2A4 1078B.1.256 1078D.0.1D91 1078E.0.258 1078F.0.25E 10790.0.2A9 10791.0.264
    10792.0.262 10793.0.260 10794.0.29B 10795.0.127 10796.0.29C 10797.0.267 10798.0.284
    10799.1.2AA 1079B.0.26C 1079C.0.1DF04 1079D.0.A78E 1079E.0.26E 1079F.0.1DF05 107A0.0.28E
    107A1.0.1DF06 107A2.0.F8 107A3.1.276 107A5.0.71 107A6.0.27A 107A7.0.1DF08 107A8.1.27D
    107AA.0.280 107AB.0.2A8 107AC.0.2A6 107AD.0.AB67 107AE.0.2A7 107AF.0.288 107B0.0.2C71
    107B2.0.28F 107B3.1.2A1 107B5.0.298 107B6.2.1C0 107B9.0.1DF0A 107BA.0.1DF1E
    1109A.0.11099.110BA 1109C.0.1109B.110BA 110AB.0.110A5.110BA 1112E.0.11131.11127
    1112F.0.11132.11127 1134B.0.11347.1133E 1134C.0.11347.11357 114BB.0.114B9.114BA
    114BC.0.114B9.114B0 114BE.0.114B9.114BD 115BA.0.115B8.115AF 115BB.0.115B9.115AF
    11938.0.11935.11930 1D400.19.41 1D41A.19.61 1D434.19.41 1D44E.6.61 1D456.11.69 1D468.19.41
    1D482.19.61 1D49C.0.41 1D49E.1.43 1D4A2.0.47 1D4A5.1.4A 1D4A9.3.4E 1D4AE.7.53 1D4B6.3.61
    1D4BB.0.66 1D4BD.6.68 1D4C5.A.70 1D4D0.19.41 1D4EA.19.61 1D504.1.41 1D507.3.44 1D50D.7.4A
    1D516.6.53 1D51E.19.61 1D538.1.41 1D53B.3.44 1D540.4.49 1D546.0.4F 1D54A.6.53 1D552.19.61
    1D56C.19.41 1D586.19.61 1D5A0.19.41 1D5BA.19.61 1D5D4.19.41 1D5EE.19.61 1D608.19.41
    1D622.19.61 1D63C.19.41 1D656.19.61 1D670.19.41 1D68A.19.61 1D6A4.0.131 1D6A5.0.237
    1D6A8.10.391 1D6B9.0.398 1D6BA.6.3A3 1D6C2.18.3B1 1D6DC.0.3B5 1D6DD.0.3B8 1D6DE.0.3BA
    1D6DF.0.3C6 1D6E0.0.3C1 1D6E1.0.3C0 1D6E2.10.391 1D6F3.0.398 1D6F4.6.3A3 1D6FC.18.3B1
    1D716.0.3B5 1D717.0.3B8 1D718.0.3BA 1D719.0.3C6 1D71A.0.3C1 1D71B.0.3C0 1D71C.10.391
    1D72D.0.398 1D72E.6.3A3 1D736.18.3B1 1D750.0.3B5 1D751.0.3B8 1D752.0.3BA 1D753.0.3C6
    1D754.0.3C1 1D755.0.3C0 1D756.10.391 1D767.0.398 1D768.6.3A3 1D770.18.3B1 1D78A.0.3B5
    1D78B.0.3B8 1D78C.0.3BA 1D78D.0.3C6 1D78E.0.3C1 1D78F.0.3C0 1D790.10.391 1D7A1.0.398
    1D7A2.6.3A3 1D7AA.18.3B1 1D7C4.0.3B5 1D7C5.0.3B8 1D7C6.0.3BA 1D7C7.0.3C6 1D7C8.0.3C1
    1D7C9.0.3C0 1D7CA.1.3DC 1D7CE.9.30 1D7D8.9.30 1D7E2.9.30 1D7EC.9.30 1D7F6.9.30 1EE00.1.627
    1EE02.0.62C 1EE03.0.62F 1EE05.0.648 1EE06.0.632 1EE07.0.62D 1EE08.0.637 1EE09.0.64A
    1EE0A.3.643 1EE0E.0.633 1EE0F.0.639 1EE10.0.641 1EE11.0.635 1EE12.0.642 1EE13.0.631
    1EE14.0.634 1EE15.1.62A 1EE17.0.62E 1EE18.0.630 1EE19.0.636 1EE1A.0.638 1EE1B.0.63A
    1EE1C.0.66E 1EE1D.0.6BA 1EE1E.0.6A1 1EE1F.0.66F 1EE21.0.628 1EE22.0.62C 1EE24.0.647
    1EE27.0.62D 1EE29.0.64A 1EE2A.3.643 1EE2E.0.633 1EE2F.0.639 1EE30.0.641 1EE31.0.635
    1EE32.0.642 1EE34.0.634 1EE35.1.62A 1EE37.0.62E 1EE39.0.636 1EE3B.0.63A 1EE42.0.62C
    1EE47.0.62D 1EE49.0.64A 1EE4B.0.644 1EE4D.0.646 1EE4E.0.633 1EE4F.0.639 1EE51.0.635
    1EE52.0.642 1EE54.0.634 1EE57.0.62E 1EE59.0.636 1EE5B.0.63A 1EE5D.0.6BA 1EE5F.0.66F
    1EE61.0.628 1EE62.0.62C 1EE64.0.647 1EE67.0.62D 1EE68.0.637 1EE69.0.64A 1EE6A.0.643
    1EE6C.1.645 1EE6E.0.633 1EE6F.0.639 1EE70.0.641 1EE71.0.635 1EE72.0.642 1EE74.0.634
    1EE75.1.62A 1EE77.0.62E 1EE79.0.636 1EE7A.0.638 1EE7B.0.63A 1EE7C.0.66E 1EE7E.0.6A1
    1EE80.1.627 1EE82.0.62C 1EE83.0.62F 1EE84.1.647 1EE86.0.632 1EE87.0.62D 1EE88.0.637
    1EE89.0.64A 1EE8B.2.644 1EE8E.0.633 1EE8F.0.639 1EE90.0.641 1EE91.0.635 1EE92.0.642
    1EE93.0.631 1EE94.0.634 1EE95.1.62A 1EE97.0.62E 1EE98.0.630 1EE99.0.636 1EE9A.0.638
    1EE9B.0.63A 1EEA1.0.628 1EEA2.0.62C 1EEA3.0.62F 1EEA5.0.648 1EEA6.0.632 1EEA7.0.62D
    1EEA8.0.637 1EEA9.0.64A 1EEAB.2.644 1EEAE.0.633 1EEAF.0.639 1EEB0.0.641 1EEB1.0.635
    1EEB2.0.642 1EEB3.0.631 1EEB4.0.634 1EEB5.1.62A 1EEB7.0.62E 1EEB8.0.630 1EEB9.0.636
    1EEBA.0.638 1EEBB.0.63A 1FBF0.9.30 2F800.0.4E3D 2F801.0.4E38 2F802.0.4E41 2F803.0.20122
    2F804.0.4F60 2F805.0.4FAE 2F806.0.4FBB 2F807.0.5002 2F808.0.507A 2F809.0.5099 2F80A.0.50E7
    2F80B.0.50CF 2F80C.0.349E 2F80D.0.2063A 2F80E.0.514D 2F80F.0.5154 2F810.0.5164 2F811.0.5177
    2F812.0.2051C 2F813.0.34B9 2F814.0.5167 2F815.0.518D 2F816.0.2054B 2F817.0.5197 2F818.0.51A4
    2F819.0.4ECC 2F81A.0.51AC 2F81B.0.51B5 2F81C.0.291DF 2F81D.0.51F5 2F81E.0.5203 2F81F.0.34DF
    2F820.0.523B 2F821.0.5246 2F822.0.5272 2F823.0.5277 2F824.0.3515 2F825.0.52C7 2F826.0.52C9
    2F827.0.52E4 2F828.0.52FA 2F829.1.5305 2F82B.0.5317 2F82C.0.5349 2F82D.0.5351 2F82E.0.535A
    2F82F.0.5373 2F830.0.537D 2F831.0.537F 2F832.0.537F 2F833.0.537F 2F834.0.20A2C 2F835.0.7070
    2F836.0.53CA 2F837.0.53DF 2F838.0.20B63 2F839.0.53EB 2F83A.0.53F1 2F83B.0.5406 2F83C.0.549E
    2F83D.0.5438 2F83E.0.5448 2F83F.0.5468 2F840.0.54A2 2F841.0.54F6 2F842.0.5510 2F843.0.5553
    2F844.0.5563 2F845.0.5584 2F846.0.5584 2F847.0.5599 2F848.0.55AB 2F849.0.55B3 2F84A.0.55C2
    2F84B.0.5716 2F84C.0.5606 2F84D.0.5717 2F84E.0.5651 2F84F.0.5674 2F850.0.5207 2F851.0.58EE
    2F852.0.57CE 2F853.0.57F4 2F854.0.580D 2F855.0.578B 2F856.0.5832 2F857.0.5831 2F858.0.58AC
    2F859.0.214E4 2F85A.0.58F2 2F85B.0.58F7 2F85C.0.5906 2F85D.0.591A 2F85E.0.5922 2F85F.0.5962
    2F860.0.216A8 2F861.0.216EA 2F862.0.59EC 2F863.0.5A1B 2F864.0.5A27 2F865.0.59D8 2F866.0.5A66
    2F867.0.36EE 2F868.0.36FC 2F869.0.5B08 2F86A.0.5B3E 2F86B.0.5B3E 2F86C.0.219C8 2F86D.0.5BC3
    2F86E.0.5BD8 2F86F.0.5BE7 2F870.0.5BF3 2F871.0.21B18 2F872.0.5BFF 2F873.0.5C06 2F874.0.5F53
    2F875.0.5C22 2F876.0.3781 2F877.0.5C60 2F878.0.5C6E 2F879.0.5CC0 2F87A.0.5C8D 2F87B.0.21DE4
    2F87C.0.5D43 2F87D.0.21DE6 2F87E.0.5D6E 2F87F.0.5D6B 2F880.0.5D7C 2F881.1.5DE1 2F883.0.382F
    2F884.0.5DFD 2F885.0.5E28 2F886.0.5E3D 2F887.0.5E69 2F888.0.3862 2F889.0.22183 2F88A.0.387C
    2F88B.0.5EB0 2F88C.0.5EB3 2F88D.0.5EB6 2F88E.0.5ECA 2F88F.0.2A392 2F890.0.5EFE 2F891.0.22331
    2F892.0.22331 2F893.0.8201 2F894.0.5F22 2F895.0.5F22 2F896.0.38C7 2F897.0.232B8
    2F898.0.261DA 2F899.0.5F62 2F89A.0.5F6B 2F89B.0.38E3 2F89C.0.5F9A 2F89D.0.5FCD 2F89E.0.5FD7
    2F89F.0.5FF9 2F8A0.0.6081 2F8A1.0.393A 2F8A2.0.391C 2F8A3.0.6094 2F8A4.0.226D4 2F8A5.0.60C7
    2F8A6.0.6148 2F8A7.0.614C 2F8A8.0.614E 2F8A9.0.614C 2F8AA.0.617A 2F8AB.0.618E 2F8AC.0.61B2
    2F8AD.0.61A4 2F8AE.0.61AF 2F8AF.0.61DE 2F8B0.0.61F2 2F8B1.0.61F6 2F8B2.0.6210 2F8B3.0.621B
    2F8B4.0.625D 2F8B5.0.62B1 2F8B6.0.62D4 2F8B7.0.6350 2F8B8.0.22B0C 2F8B9.0.633D 2F8BA.0.62FC
    2F8BB.0.6368 2F8BC.0.6383 2F8BD.0.63E4 2F8BE.0.22BF1 2F8BF.0.6422 2F8C0.0.63C5 2F8C1.0.63A9
    2F8C2.0.3A2E 2F8C3.0.6469 2F8C4.0.647E 2F8C5.0.649D 2F8C6.0.6477 2F8C7.0.3A6C 2F8C8.0.654F
    2F8C9.0.656C 2F8CA.0.2300A 2F8CB.0.65E3 2F8CC.0.66F8 2F8CD.0.6649 2F8CE.0.3B19 2F8CF.0.6691
    2F8D0.0.3B08 2F8D1.0.3AE4 2F8D2.0.5192 2F8D3.0.5195 2F8D4.0.6700 2F8D5.0.669C 2F8D6.0.80AD
    2F8D7.0.43D9 2F8D8.0.6717 2F8D9.0.671B 2F8DA.0.6721 2F8DB.0.675E 2F8DC.0.6753 2F8DD.0.233C3
    2F8DE.0.3B49 2F8DF.0.67FA 2F8E0.0.6785 2F8E1.0.6852 2F8E2.0.6885 2F8E3.0.2346D 2F8E4.0.688E
    2F8E5.0.681F 2F8E6.0.6914 2F8E7.0.3B9D 2F8E8.0.6942 2F8E9.0.69A3 2F8EA.0.69EA 2F8EB.0.6AA8
    2F8EC.0.236A3 2F8ED.0.6ADB 2F8EE.0.3C18 2F8EF.0.6B21 2F8F0.0.238A7 2F8F1.0.6B54 2F8F2.0.3C4E
    2F8F3.0.6B72 2F8F4.0.6B9F 2F8F5.1.6BBA 2F8F7.0.23A8D 2F8F8.0.21D0B 2F8F9.0.23AFA
    2F8FA.0.6C4E 2F8FB.0.23CBC 2F8FC.0.6CBF 2F8FD.0.6CCD 2F8FE.0.6C67 2F8FF.0.6D16 2F900.0.6D3E
    2F901.0.6D77 2F902.0.6D41 2F903.0.6D69 2F904.0.6D78 2F905.0.6D85 2F906.0.23D1E 2F907.0.6D34
    2F908.0.6E2F 2F909.0.6E6E 2F90A.0.3D33 2F90B.0.6ECB 2F90C.0.6EC7 2F90D.0.23ED1 2F90E.0.6DF9
    2F90F.0.6F6E 2F910.0.23F5E 2F911.0.23F8E 2F912.0.6FC6 2F913.0.7039 2F914.0.701E 2F915.0.701B
    2F916.0.3D96 2F917.0.704A 2F918.0.707D 2F919.0.7077 2F91A.0.70AD 2F91B.0.20525 2F91C.0.7145
    2F91D.0.24263 2F91E.0.719C 2F91F.0.243AB 2F920.0.7228 2F921.0.7235 2F922.0.7250
    2F923.0.24608 2F924.0.7280 2F925.0.7295 2F926.0.24735 2F927.0.24814 2F928.0.737A
    2F929.0.738B 2F92A.0.3EAC 2F92B.0.73A5 2F92C.0.3EB8 2F92D.0.3EB8 2F92E.0.7447 2F92F.0.745C
    2F930.0.7471 2F931.0.7485 2F932.0.74CA 2F933.0.3F1B 2F934.0.7524 2F935.0.24C36 2F936.0.753E
    2F937.0.24C92 2F938.0.7570 2F939.0.2219F 2F93A.0.7610 2F93B.0.24FA1 2F93C.0.24FB8
    2F93D.0.25044 2F93E.0.3FFC 2F93F.0.4008 2F940.0.76F4 2F941.0.250F3 2F942.0.250F2
    2F943.0.25119 2F944.0.25133 2F945.1.771E 2F947.0.771F 2F948.0.774A 2F949.0.4039 2F94A.0.778B
    2F94B.0.4046 2F94C.0.4096 2F94D.0.2541D 2F94E.0.784E 2F94F.0.788C 2F950.0.78CC 2F951.0.40E3
    2F952.0.25626 2F953.0.7956 2F954.0.2569A 2F955.0.256C5 2F956.0.798F 2F957.0.79EB
    2F958.0.412F 2F959.0.7A40 2F95A.0.7A4A 2F95B.0.7A4F 2F95C.0.2597C 2F95D.0.25AA7
    2F95E.0.25AA7 2F95F.0.7AEE 2F960.0.4202 2F961.0.25BAB 2F962.0.7BC6 2F963.0.7BC9 2F964.0.4227
    2F965.0.25C80 2F966.0.7CD2 2F967.0.42A0 2F968.0.7CE8 2F969.0.7CE3 2F96A.0.7D00 2F96B.0.25F86
    2F96C.0.7D63 2F96D.0.4301 2F96E.0.7DC7 2F96F.0.7E02 2F970.0.7E45 2F971.0.4334 2F972.0.26228
    2F973.0.26247 2F974.0.4359 2F975.0.262D9 2F976.0.7F7A 2F977.0.2633E 2F978.0.7F95
    2F979.0.7FFA 2F97A.0.8005 2F97B.0.264DA 2F97C.0.26523 2F97D.0.8060 2F97E.0.265A8
    2F97F.0.8070 2F980.0.2335F 2F981.0.43D5 2F982.0.80B2 2F983.0.8103 2F984.0.440B 2F985.0.813E
    2F986.0.5AB5 2F987.0.267A7 2F988.0.267B5 2F989.0.23393 2F98A.0.2339C 2F98B.0.8201
    2F98C.0.8204 2F98D.0.8F9E 2F98E.0.446B 2F98F.0.8291 2F990.0.828B 2F991.0.829D 2F992.0.52B3
    2F993.0.82B1 2F994.0.82B3 2F995.0.82BD 2F996.0.82E6 2F997.0.26B3C 2F998.0.82E5 2F999.0.831D
    2F99A.0.8363 2F99B.0.83AD 2F99C.0.8323 2F99D.0.83BD 2F99E.0.83E7 2F99F.0.8457 2F9A0.0.8353
    2F9A1.0.83CA 2F9A2.0.83CC 2F9A3.0.83DC 2F9A4.0.26C36 2F9A5.0.26D6B 2F9A6.0.26CD5
    2F9A7.0.452B 2F9A8.0.84F1 2F9A9.0.84F3 2F9AA.0.8516 2F9AB.0.273CA 2F9AC.0.8564 2F9AD.0.26F2C
    2F9AE.0.455D 2F9AF.0.4561 2F9B0.0.26FB1 2F9B1.0.270D2 2F9B2.0.456B 2F9B3.0.8650 2F9B4.0.865C
    2F9B5.0.8667 2F9B6.0.8669 2F9B7.0.86A9 2F9B8.0.8688 2F9B9.0.870E 2F9BA.0.86E2 2F9BB.0.8779
    2F9BC.0.8728 2F9BD.0.876B 2F9BE.0.8786 2F9BF.0.45D7 2F9C0.0.87E1 2F9C1.0.8801 2F9C2.0.45F9
    2F9C3.0.8860 2F9C4.0.8863 2F9C5.0.27667 2F9C6.0.88D7 2F9C7.0.88DE 2F9C8.0.4635 2F9C9.0.88FA
    2F9CA.0.34BB 2F9CB.0.278AE 2F9CC.0.27966 2F9CD.0.46BE 2F9CE.0.46C7 2F9CF.0.8AA0 2F9D0.0.8AED
    2F9D1.0.8B8A 2F9D2.0.8C55 2F9D3.0.27CA8 2F9D4.0.8CAB 2F9D5.0.8CC1 2F9D6.0.8D1B 2F9D7.0.8D77
    2F9D8.0.27F2F 2F9D9.0.20804 2F9DA.0.8DCB 2F9DB.0.8DBC 2F9DC.0.8DF0 2F9DD.0.208DE
    2F9DE.0.8ED4 2F9DF.0.8F38 2F9E0.0.285D2 2F9E1.0.285ED 2F9E2.0.9094 2F9E3.0.90F1 2F9E4.0.9111
    2F9E5.0.2872E 2F9E6.0.911B 2F9E7.0.9238 2F9E8.1.92D7 2F9EA.0.927C 2F9EB.0.93F9 2F9EC.0.9415
    2F9ED.0.28BFA 2F9EE.0.958B 2F9EF.0.4995 2F9F0.0.95B7 2F9F1.0.28D77 2F9F2.0.49E6 2F9F3.0.96C3
    2F9F4.0.5DB2 2F9F5.0.9723 2F9F6.0.29145 2F9F7.0.2921A 2F9F8.0.4A6E 2F9F9.0.4A76 2F9FA.0.97E0
    2F9FB.0.2940A 2F9FC.0.4AB2 2F9FD.0.29496 2F9FE.0.980B 2F9FF.0.980B 2FA00.0.9829
    2FA01.0.295B6 2FA02.0.98E2 2FA03.0.4B33 2FA04.0.9929 2FA05.0.99A7 2FA06.0.99C2 2FA07.0.99FE
    2FA08.0.4BCE 2FA09.0.29B30 2FA0A.0.9B12 2FA0B.0.9C40 2FA0C.0.9CFD 2FA0D.0.4CCE 2FA0E.0.4CED
    2FA0F.0.9D67 2FA10.0.2A0CE 2FA11.0.4CF8 2FA12.0.2A105 2FA13.0.2A20E 2FA14.0.2A291
    2FA15.0.9EBB 2FA16.0.4D56 2FA17.0.9EF9 2FA18.0.9EFE 2FA19.0.9F05 2FA1A.0.9F0F 2FA1B.0.9F16
    2FA1C.0.9F3B 2FA1D.0.2A600"

/-- The classes of marks. -/
def classText : String :=
  "300.14.E6 315.0.E8 316.3.DC 31A.0.E8 31B.0.D8 31C.4.DC 321.1.CA 323.3.DC 327.1.CA 329.A.DC
    334.4.1 339.3.DC 33D.7.E6 345.0.F0 346.0.E6 347.2.DC 34A.2.E6 34D.1.DC 350.2.E6 353.3.DC
    357.0.E6 358.0.E8 359.1.DC 35B.0.E6 35C.0.E9 35D.1.EA 35F.0.E9 360.1.EA 362.0.E9 363.C.E6
    483.4.E6 591.0.DC 592.3.E6 596.0.DC 597.2.E6 59A.0.DE 59B.0.DC 59C.5.E6 5A2.5.DC 5A8.1.E6
    5AA.0.DC 5AB.1.E6 5AD.0.DE 5AE.0.E4 5AF.0.E6 5B0.0.A 5B1.0.B 5B2.0.C 5B3.0.D 5B4.0.E 5B5.0.F
    5B6.0.10 5B7.0.11 5B8.0.12 5B9.1.13 5BB.0.14 5BC.0.15 5BD.0.16 5BF.0.17 5C1.0.18 5C2.0.19
    5C4.0.E6 5C5.0.DC 5C7.0.12 610.7.E6 618.0.1E 619.0.1F 61A.0.20 64B.0.1B 64C.0.1C 64D.0.1D
    64E.0.1E 64F.0.1F 650.0.20 651.0.21 652.0.22 653.1.E6 655.1.DC 657.4.E6 65C.0.DC 65D.1.E6
    65F.0.DC 670.0.23 6D6.6.E6 6DF.3.E6 6E3.0.DC 6E4.0.E6 6E7.1.E6 6EA.0.DC 6EB.1.E6 6ED.0.DC
    711.0.24 730.0.E6 731.0.DC 732.1.E6 734.0.DC 735.1.E6 737.2.DC 73A.0.E6 73B.1.DC 73D.0.E6
    73E.0.DC 73F.2.E6 742.0.DC 743.0.E6 744.0.DC 745.0.E6 746.0.DC 747.0.E6 748.0.DC 749.1.E6
    7EB.6.E6 7F2.0.DC 7F3.0.E6 7FD.0.DC 816.3.E6 81B.8.E6 825.2.E6 829.4.E6 859.2.DC 898.0.E6
    899.2.DC 89C.3.E6 8CA.4.E6 8CF.4.DC 8D4.D.E6 8E3.0.DC 8E4.1.E6 8E6.0.DC 8E7.1.E6 8E9.0.DC
    8EA.2.E6 8ED.2.DC 8F0.0.1B 8F1.0.1C 8F2.0.1D 8F3.2.E6 8F6.0.DC 8F7.1.E6 8F9.1.DC 8FB.4.E6
    93C.0.7 94D.0.9 951.0.E6 952.0.DC 953.1.E6 9BC.0.7 9CD.0.9 9FE.0.E6 A3C.0.7 A4D.0.9 ABC.0.7
    ACD.0.9 B3C.0.7 B4D.0.9 BCD.0.9 C3C.0.7 C4D.0.9 C55.0.54 C56.0.5B CBC.0.7 CCD.0.9 D3B.1.9
    D4D.0.9 DCA.0.9 E38.1.67 E3A.0.9 E48.3.6B EB8.1.76 EBA.0.9 EC8.3.7A F18.1.DC F35.0.DC
    F37.0.DC F39.0.D8 F71.0.81 F72.0.82 F74.0.84 F7A.3.82 F80.0.82 F82.1.E6 F84.0.9 F86.1.E6
    FC6.0.DC 1037.0.7 1039.1.9 108D.0.DC 135D.2.E6 1714.1.9 1734.0.9 17D2.0.9 17DD.0.E6
    18A9.0.E4 1939.0.DE 193A.0.E6 193B.0.DC 1A17.0.E6 1A18.0.DC 1A60.0.9 1A75.7.E6 1A7F.0.DC
    1AB0.4.E6 1AB5.5.DC 1ABB.1.E6 1ABD.0.DC 1ABF.1.DC 1AC1.1.E6 1AC3.1.DC 1AC5.4.E6 1ACA.0.DC
    1ACB.3.E6 1B34.0.7 1B44.0.9 1B6B.0.E6 1B6C.0.DC 1B6D.6.E6 1BAA.1.9 1BE6.0.7 1BF2.1.9
    1C37.0.7 1CD0.2.E6 1CD4.0.1 1CD5.4.DC 1CDA.1.E6 1CDC.3.DC 1CE0.0.E6 1CE2.6.1 1CED.0.DC
    1CF4.0.E6 1CF8.1.E6 1DC0.1.E6 1DC2.0.DC 1DC3.6.E6 1DCA.0.DC 1DCB.1.E6 1DCD.0.EA 1DCE.0.D6
    1DCF.0.DC 1DD0.0.CA 1DD1.24.E6 1DF6.0.E8 1DF7.1.E4 1DF9.0.DC 1DFA.0.DA 1DFB.0.E6 1DFC.0.E9
    1DFD.0.DC 1DFE.0.E6 1DFF.0.DC 20D0.1.E6 20D2.1.1 20D4.3.E6 20D8.2.1 20DB.1.E6 20E1.0.E6
    20E5.1.1 20E7.0.E6 20E8.0.DC 20E9.0.E6 20EA.1.1 20EC.3.DC 20F0.0.E6 2CEF.2.E6 2D7F.0.9
    2DE0.1F.E6 302A.0.DA 302B.0.E4 302C.0.E8 302D.0.DE 302E.1.E0 3099.1.8 A66F.0.E6 A674.9.E6
    A69E.1.E6 A6F0.1.E6 A806.0.9 A82C.0.9 A8C4.0.9 A8E0.11.E6 A92B.2.DC A953.0.9 A9B3.0.7
    A9C0.0.9 AAB0.0.E6 AAB2.1.E6 AAB4.0.DC AAB7.1.E6 AABE.1.E6 AAC1.0.E6 AAF6.0.9 ABED.0.9
    FB1E.0.1A FE20.6.E6 FE27.6.DC FE2E.1.E6 101FD.0.DC 102E0.0.DC 10376.4.E6 10A0D.0.DC
    10A0F.0.E6 10A38.0.E6 10A39.0.1 10A3A.0.DC 10A3F.0.9 10AE5.0.E6 10AE6.0.DC 10D24.3.E6
    10EAB.1.E6 10F46.1.DC 10F48.2.E6 10F4B.0.DC 10F4C.0.E6 10F4D.3.DC 10F82.0.E6 10F83.0.DC
    10F84.0.E6 10F85.0.DC 11046.0.9 11070.0.9 1107F.0.9 110B9.0.9 110BA.0.7 11100.2.E6 11133.1.9
    11173.0.7 111C0.0.9 111CA.0.7 11235.0.9 11236.0.7 112E9.0.7 112EA.0.9 1133B.1.7 1134D.0.9
    11366.6.E6 11370.4.E6 11442.0.9 11446.0.7 1145E.0.E6 114C2.0.9 114C3.0.7 115BF.0.9 115C0.0.7
    1163F.0.9 116B6.0.9 116B7.0.7 1172B.0.9 11839.0.9 1183A.0.7 1193D.1.9 11943.0.7 119E0.0.9
    11A34.0.9 11A47.0.9 11A99.0.9 11C3F.0.9 11D42.0.7 11D44.1.9 11D97.0.9 16AF0.4.1 16B30.6.E6
    16FF0.1.6 1BC9E.0.1 1D165.1.D8 1D167.2.1 1D16D.0.E2 1D16E.4.D8 1D17B.7.DC 1D185.4.E6
    1D18A.1.DC 1D1AA.3.E6 1D242.2.E6 1E000.6.E6 1E008.10.E6 1E01B.6.E6 1E023.1.E6 1E026.4.E6
    1E130.6.E6 1E2AE.0.E6 1E2EC.3.E6 1E8D0.6.DC 1E944.5.E6 1E94A.0.7"

/-- Characters that make one character. -/
def pairText : String :=
  "41.300.C0 41.301.C1 41.302.C2 41.303.C3 41.304.100 41.306.102 41.307.226 41.308.C4
    41.309.1EA2 41.30A.C5 41.30C.1CD 41.30F.200 41.311.202 41.323.1EA0 41.325.1E00 41.328.104
    42.307.1E02 42.323.1E04 42.331.1E06 43.301.106 43.302.108 43.307.10A 43.30C.10C 43.327.C7
    44.307.1E0A 44.30C.10E 44.323.1E0C 44.327.1E10 44.32D.1E12 44.331.1E0E 45.300.C8 45.301.C9
    45.302.CA 45.303.1EBC 45.304.112 45.306.114 45.307.116 45.308.CB 45.309.1EBA 45.30C.11A
    45.30F.204 45.311.206 45.323.1EB8 45.327.228 45.328.118 45.32D.1E18 45.330.1E1A 46.307.1E1E
    47.301.1F4 47.302.11C 47.304.1E20 47.306.11E 47.307.120 47.30C.1E6 47.327.122 48.302.124
    48.307.1E22 48.308.1E26 48.30C.21E 48.323.1E24 48.327.1E28 48.32E.1E2A 49.300.CC 49.301.CD
    49.302.CE 49.303.128 49.304.12A 49.306.12C 49.307.130 49.308.CF 49.309.1EC8 49.30C.1CF
    49.30F.208 49.311.20A 49.323.1ECA 49.328.12E 49.330.1E2C 4A.302.134 4B.301.1E30 4B.30C.1E8
    4B.323.1E32 4B.327.136 4B.331.1E34 4C.301.139 4C.30C.13D 4C.323.1E36 4C.327.13B 4C.32D.1E3C
    4C.331.1E3A 4D.301.1E3E 4D.307.1E40 4D.323.1E42 4E.300.1F8 4E.301.143 4E.303.D1 4E.307.1E44
    4E.30C.147 4E.323.1E46 4E.327.145 4E.32D.1E4A 4E.331.1E48 4F.300.D2 4F.301.D3 4F.302.D4
    4F.303.D5 4F.304.14C 4F.306.14E 4F.307.22E 4F.308.D6 4F.309.1ECE 4F.30B.150 4F.30C.1D1
    4F.30F.20C 4F.311.20E 4F.31B.1A0 4F.323.1ECC 4F.328.1EA 50.301.1E54 50.307.1E56 52.301.154
    52.307.1E58 52.30C.158 52.30F.210 52.311.212 52.323.1E5A 52.327.156 52.331.1E5E 53.301.15A
    53.302.15C 53.307.1E60 53.30C.160 53.323.1E62 53.326.218 53.327.15E 54.307.1E6A 54.30C.164
    54.323.1E6C 54.326.21A 54.327.162 54.32D.1E70 54.331.1E6E 55.300.D9 55.301.DA 55.302.DB
    55.303.168 55.304.16A 55.306.16C 55.308.DC 55.309.1EE6 55.30A.16E 55.30B.170 55.30C.1D3
    55.30F.214 55.311.216 55.31B.1AF 55.323.1EE4 55.324.1E72 55.328.172 55.32D.1E76 55.330.1E74
    56.303.1E7C 56.323.1E7E 57.300.1E80 57.301.1E82 57.302.174 57.307.1E86 57.308.1E84
    57.323.1E88 58.307.1E8A 58.308.1E8C 59.300.1EF2 59.301.DD 59.302.176 59.303.1EF8 59.304.232
    59.307.1E8E 59.308.178 59.309.1EF6 59.323.1EF4 5A.301.179 5A.302.1E90 5A.307.17B 5A.30C.17D
    5A.323.1E92 5A.331.1E94 61.300.E0 61.301.E1 61.302.E2 61.303.E3 61.304.101 61.306.103
    61.307.227 61.308.E4 61.309.1EA3 61.30A.E5 61.30C.1CE 61.30F.201 61.311.203 61.323.1EA1
    61.325.1E01 61.328.105 62.307.1E03 62.323.1E05 62.331.1E07 63.301.107 63.302.109 63.307.10B
    63.30C.10D 63.327.E7 64.307.1E0B 64.30C.10F 64.323.1E0D 64.327.1E11 64.32D.1E13 64.331.1E0F
    65.300.E8 65.301.E9 65.302.EA 65.303.1EBD 65.304.113 65.306.115 65.307.117 65.308.EB
    65.309.1EBB 65.30C.11B 65.30F.205 65.311.207 65.323.1EB9 65.327.229 65.328.119 65.32D.1E19
    65.330.1E1B 66.307.1E1F 67.301.1F5 67.302.11D 67.304.1E21 67.306.11F 67.307.121 67.30C.1E7
    67.327.123 68.302.125 68.307.1E23 68.308.1E27 68.30C.21F 68.323.1E25 68.327.1E29 68.32E.1E2B
    68.331.1E96 69.300.EC 69.301.ED 69.302.EE 69.303.129 69.304.12B 69.306.12D 69.308.EF
    69.309.1EC9 69.30C.1D0 69.30F.209 69.311.20B 69.323.1ECB 69.328.12F 69.330.1E2D 6A.302.135
    6A.30C.1F0 6B.301.1E31 6B.30C.1E9 6B.323.1E33 6B.327.137 6B.331.1E35 6C.301.13A 6C.30C.13E
    6C.323.1E37 6C.327.13C 6C.32D.1E3D 6C.331.1E3B 6D.301.1E3F 6D.307.1E41 6D.323.1E43
    6E.300.1F9 6E.301.144 6E.303.F1 6E.307.1E45 6E.30C.148 6E.323.1E47 6E.327.146 6E.32D.1E4B
    6E.331.1E49 6F.300.F2 6F.301.F3 6F.302.F4 6F.303.F5 6F.304.14D 6F.306.14F 6F.307.22F
    6F.308.F6 6F.309.1ECF 6F.30B.151 6F.30C.1D2 6F.30F.20D 6F.311.20F 6F.31B.1A1 6F.323.1ECD
    6F.328.1EB 70.301.1E55 70.307.1E57 72.301.155 72.307.1E59 72.30C.159 72.30F.211 72.311.213
    72.323.1E5B 72.327.157 72.331.1E5F 73.301.15B 73.302.15D 73.307.1E61 73.30C.161 73.323.1E63
    73.326.219 73.327.15F 74.307.1E6B 74.308.1E97 74.30C.165 74.323.1E6D 74.326.21B 74.327.163
    74.32D.1E71 74.331.1E6F 75.300.F9 75.301.FA 75.302.FB 75.303.169 75.304.16B 75.306.16D
    75.308.FC 75.309.1EE7 75.30A.16F 75.30B.171 75.30C.1D4 75.30F.215 75.311.217 75.31B.1B0
    75.323.1EE5 75.324.1E73 75.328.173 75.32D.1E77 75.330.1E75 76.303.1E7D 76.323.1E7F
    77.300.1E81 77.301.1E83 77.302.175 77.307.1E87 77.308.1E85 77.30A.1E98 77.323.1E89
    78.307.1E8B 78.308.1E8D 79.300.1EF3 79.301.FD 79.302.177 79.303.1EF9 79.304.233 79.307.1E8F
    79.308.FF 79.309.1EF7 79.30A.1E99 79.323.1EF5 7A.301.17A 7A.302.1E91 7A.307.17C 7A.30C.17E
    7A.323.1E93 7A.331.1E95 C2.300.1EA6 C2.301.1EA4 C2.303.1EAA C2.309.1EA8 C4.304.1DE
    C5.301.1FA C6.301.1FC C6.304.1E2 C7.301.1E08 CA.300.1EC0 CA.301.1EBE CA.303.1EC4 CA.309.1EC2
    CF.301.1E2E D4.300.1ED2 D4.301.1ED0 D4.303.1ED6 D4.309.1ED4 D5.301.1E4C D5.304.22C
    D5.308.1E4E D6.304.22A D8.301.1FE DC.300.1DB DC.301.1D7 DC.304.1D5 DC.30C.1D9 E2.300.1EA7
    E2.301.1EA5 E2.303.1EAB E2.309.1EA9 E4.304.1DF E5.301.1FB E6.301.1FD E6.304.1E3 E7.301.1E09
    EA.300.1EC1 EA.301.1EBF EA.303.1EC5 EA.309.1EC3 EF.301.1E2F F4.300.1ED3 F4.301.1ED1
    F4.303.1ED7 F4.309.1ED5 F5.301.1E4D F5.304.22D F5.308.1E4F F6.304.22B F8.301.1FF FC.300.1DC
    FC.301.1D8 FC.304.1D6 FC.30C.1DA 102.300.1EB0 102.301.1EAE 102.303.1EB4 102.309.1EB2
    103.300.1EB1 103.301.1EAF 103.303.1EB5 103.309.1EB3 112.300.1E14 112.301.1E16 113.300.1E15
    113.301.1E17 14C.300.1E50 14C.301.1E52 14D.300.1E51 14D.301.1E53 15A.307.1E64 15B.307.1E65
    160.307.1E66 161.307.1E67 168.301.1E78 169.301.1E79 16A.308.1E7A 16B.308.1E7B 17F.307.1E9B
    1A0.300.1EDC 1A0.301.1EDA 1A0.303.1EE0 1A0.309.1EDE 1A0.323.1EE2 1A1.300.1EDD 1A1.301.1EDB
    1A1.303.1EE1 1A1.309.1EDF 1A1.323.1EE3 1AF.300.1EEA 1AF.301.1EE8 1AF.303.1EEE 1AF.309.1EEC
    1AF.323.1EF0 1B0.300.1EEB 1B0.301.1EE9 1B0.303.1EEF 1B0.309.1EED 1B0.323.1EF1 1B7.30C.1EE
    1EA.304.1EC 1EB.304.1ED 226.304.1E0 227.304.1E1 228.306.1E1C 229.306.1E1D 22E.304.230
    22F.304.231 292.30C.1EF 391.300.1FBA 391.301.386 391.304.1FB9 391.306.1FB8 391.313.1F08
    391.314.1F09 391.345.1FBC 395.300.1FC8 395.301.388 395.313.1F18 395.314.1F19 397.300.1FCA
    397.301.389 397.313.1F28 397.314.1F29 397.345.1FCC 399.300.1FDA 399.301.38A 399.304.1FD9
    399.306.1FD8 399.308.3AA 399.313.1F38 399.314.1F39 39F.300.1FF8 39F.301.38C 39F.313.1F48
    39F.314.1F49 3A1.314.1FEC 3A5.300.1FEA 3A5.301.38E 3A5.304.1FE9 3A5.306.1FE8 3A5.308.3AB
    3A5.314.1F59 3A9.300.1FFA 3A9.301.38F 3A9.313.1F68 3A9.314.1F69 3A9.345.1FFC 3AC.345.1FB4
    3AE.345.1FC4 3B1.300.1F70 3B1.301.3AC 3B1.304.1FB1 3B1.306.1FB0 3B1.313.1F00 3B1.314.1F01
    3B1.342.1FB6 3B1.345.1FB3 3B5.300.1F72 3B5.301.3AD 3B5.313.1F10 3B5.314.1F11 3B7.300.1F74
    3B7.301.3AE 3B7.313.1F20 3B7.314.1F21 3B7.342.1FC6 3B7.345.1FC3 3B9.300.1F76 3B9.301.3AF
    3B9.304.1FD1 3B9.306.1FD0 3B9.308.3CA 3B9.313.1F30 3B9.314.1F31 3B9.342.1FD6 3BF.300.1F78
    3BF.301.3CC 3BF.313.1F40 3BF.314.1F41 3C1.313.1FE4 3C1.314.1FE5 3C5.300.1F7A 3C5.301.3CD
    3C5.304.1FE1 3C5.306.1FE0 3C5.308.3CB 3C5.313.1F50 3C5.314.1F51 3C5.342.1FE6 3C9.300.1F7C
    3C9.301.3CE 3C9.313.1F60 3C9.314.1F61 3C9.342.1FF6 3C9.345.1FF3 3CA.300.1FD2 3CA.301.390
    3CA.342.1FD7 3CB.300.1FE2 3CB.301.3B0 3CB.342.1FE7 3CE.345.1FF4 3D2.301.3D3 3D2.308.3D4
    406.308.407 410.306.4D0 410.308.4D2 413.301.403 415.300.400 415.306.4D6 415.308.401
    416.306.4C1 416.308.4DC 417.308.4DE 418.300.40D 418.304.4E2 418.306.419 418.308.4E4
    41A.301.40C 41E.308.4E6 423.304.4EE 423.306.40E 423.308.4F0 423.30B.4F2 427.308.4F4
    42B.308.4F8 42D.308.4EC 430.306.4D1 430.308.4D3 433.301.453 435.300.450 435.306.4D7
    435.308.451 436.306.4C2 436.308.4DD 437.308.4DF 438.300.45D 438.304.4E3 438.306.439
    438.308.4E5 43A.301.45C 43E.308.4E7 443.304.4EF 443.306.45E 443.308.4F1 443.30B.4F3
    447.308.4F5 44B.308.4F9 44D.308.4ED 456.308.457 474.30F.476 475.30F.477 4D8.308.4DA
    4D9.308.4DB 4E8.308.4EA 4E9.308.4EB 627.653.622 627.654.623 627.655.625 648.654.624
    64A.654.626 6C1.654.6C2 6D2.654.6D3 6D5.654.6C0 928.93C.929 930.93C.931 933.93C.934
    9C7.9BE.9CB 9C7.9D7.9CC B47.B3E.B4B B47.B56.B48 B47.B57.B4C B92.BD7.B94 BC6.BBE.BCA
    BC6.BD7.BCC BC7.BBE.BCB C46.C56.C48 CBF.CD5.CC0 CC6.CC2.CCA CC6.CD5.CC7 CC6.CD6.CC8
    CCA.CD5.CCB D46.D3E.D4A D46.D57.D4C D47.D3E.D4B DD9.DCA.DDA DD9.DCF.DDC DD9.DDF.DDE
    DDC.DCA.DDD 1025.102E.1026 1B05.1B35.1B06 1B07.1B35.1B08 1B09.1B35.1B0A 1B0B.1B35.1B0C
    1B0D.1B35.1B0E 1B11.1B35.1B12 1B3A.1B35.1B3B 1B3C.1B35.1B3D 1B3E.1B35.1B40 1B3F.1B35.1B41
    1B42.1B35.1B43 1E36.304.1E38 1E37.304.1E39 1E5A.304.1E5C 1E5B.304.1E5D 1E62.307.1E68
    1E63.307.1E69 1EA0.302.1EAC 1EA0.306.1EB6 1EA1.302.1EAD 1EA1.306.1EB7 1EB8.302.1EC6
    1EB9.302.1EC7 1ECC.302.1ED8 1ECD.302.1ED9 1F00.300.1F02 1F00.301.1F04 1F00.342.1F06
    1F00.345.1F80 1F01.300.1F03 1F01.301.1F05 1F01.342.1F07 1F01.345.1F81 1F02.345.1F82
    1F03.345.1F83 1F04.345.1F84 1F05.345.1F85 1F06.345.1F86 1F07.345.1F87 1F08.300.1F0A
    1F08.301.1F0C 1F08.342.1F0E 1F08.345.1F88 1F09.300.1F0B 1F09.301.1F0D 1F09.342.1F0F
    1F09.345.1F89 1F0A.345.1F8A 1F0B.345.1F8B 1F0C.345.1F8C 1F0D.345.1F8D 1F0E.345.1F8E
    1F0F.345.1F8F 1F10.300.1F12 1F10.301.1F14 1F11.300.1F13 1F11.301.1F15 1F18.300.1F1A
    1F18.301.1F1C 1F19.300.1F1B 1F19.301.1F1D 1F20.300.1F22 1F20.301.1F24 1F20.342.1F26
    1F20.345.1F90 1F21.300.1F23 1F21.301.1F25 1F21.342.1F27 1F21.345.1F91 1F22.345.1F92
    1F23.345.1F93 1F24.345.1F94 1F25.345.1F95 1F26.345.1F96 1F27.345.1F97 1F28.300.1F2A
    1F28.301.1F2C 1F28.342.1F2E 1F28.345.1F98 1F29.300.1F2B 1F29.301.1F2D 1F29.342.1F2F
    1F29.345.1F99 1F2A.345.1F9A 1F2B.345.1F9B 1F2C.345.1F9C 1F2D.345.1F9D 1F2E.345.1F9E
    1F2F.345.1F9F 1F30.300.1F32 1F30.301.1F34 1F30.342.1F36 1F31.300.1F33 1F31.301.1F35
    1F31.342.1F37 1F38.300.1F3A 1F38.301.1F3C 1F38.342.1F3E 1F39.300.1F3B 1F39.301.1F3D
    1F39.342.1F3F 1F40.300.1F42 1F40.301.1F44 1F41.300.1F43 1F41.301.1F45 1F48.300.1F4A
    1F48.301.1F4C 1F49.300.1F4B 1F49.301.1F4D 1F50.300.1F52 1F50.301.1F54 1F50.342.1F56
    1F51.300.1F53 1F51.301.1F55 1F51.342.1F57 1F59.300.1F5B 1F59.301.1F5D 1F59.342.1F5F
    1F60.300.1F62 1F60.301.1F64 1F60.342.1F66 1F60.345.1FA0 1F61.300.1F63 1F61.301.1F65
    1F61.342.1F67 1F61.345.1FA1 1F62.345.1FA2 1F63.345.1FA3 1F64.345.1FA4 1F65.345.1FA5
    1F66.345.1FA6 1F67.345.1FA7 1F68.300.1F6A 1F68.301.1F6C 1F68.342.1F6E 1F68.345.1FA8
    1F69.300.1F6B 1F69.301.1F6D 1F69.342.1F6F 1F69.345.1FA9 1F6A.345.1FAA 1F6B.345.1FAB
    1F6C.345.1FAC 1F6D.345.1FAD 1F6E.345.1FAE 1F6F.345.1FAF 1F70.345.1FB2 1F74.345.1FC2
    1F7C.345.1FF2 1FB6.345.1FB7 1FC6.345.1FC7 1FF6.345.1FF7 3046.3099.3094 304B.3099.304C
    304D.3099.304E 304F.3099.3050 3051.3099.3052 3053.3099.3054 3055.3099.3056 3057.3099.3058
    3059.3099.305A 305B.3099.305C 305D.3099.305E 305F.3099.3060 3061.3099.3062 3064.3099.3065
    3066.3099.3067 3068.3099.3069 306F.3099.3070 306F.309A.3071 3072.3099.3073 3072.309A.3074
    3075.3099.3076 3075.309A.3077 3078.3099.3079 3078.309A.307A 307B.3099.307C 307B.309A.307D
    309D.3099.309E 30A6.3099.30F4 30AB.3099.30AC 30AD.3099.30AE 30AF.3099.30B0 30B1.3099.30B2
    30B3.3099.30B4 30B5.3099.30B6 30B7.3099.30B8 30B9.3099.30BA 30BB.3099.30BC 30BD.3099.30BE
    30BF.3099.30C0 30C1.3099.30C2 30C4.3099.30C5 30C6.3099.30C7 30C8.3099.30C9 30CF.3099.30D0
    30CF.309A.30D1 30D2.3099.30D3 30D2.309A.30D4 30D5.3099.30D6 30D5.309A.30D7 30D8.3099.30D9
    30D8.309A.30DA 30DB.3099.30DC 30DB.309A.30DD 30EF.3099.30F7 30F0.3099.30F8 30F1.3099.30F9
    30F2.3099.30FA 30FD.3099.30FE 11099.110BA.1109A 1109B.110BA.1109C 110A5.110BA.110AB
    11131.11127.1112E 11132.11127.1112F 11347.1133E.1134B 11347.11357.1134C 114B9.114B0.114BC
    114B9.114BA.114BB 114B9.114BD.114BE 115B8.115AF.115BA 115B9.115AF.115BB 11935.11930.11938"

end CallReach.Text
