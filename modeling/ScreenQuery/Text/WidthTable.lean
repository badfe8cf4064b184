/-!
# Display widths, as runs

* `widthRuns` gives the width of every code point from U+0000 up: the length of each run, in
  hexadecimal, and then the columns that each character of it takes.
* `transparentRuns` is the set of the characters without width that leave Arabic letters joined:
  a run outside the set, a run inside it, and so on.
-/

namespace ScreenQuery.Text

/-- Lengths and widths of the runs of code points with one width. -/
def widthRuns : String :=
  "ad 1 1 0 252 1 70 0 113 1 7 0 107 1 2d 0 1 1 1 0 1 1 2 0 1 1 2 0 1 1 1 0 3d 1 1 0 a 1 b 0 1 1
  1 0 2e 1 15 0 10 1 1 0 65 1 7 0 2 1 6 0 2 1 2 0 1 1 4 0 21 1 1 0 1 1 1 0 1e 1 1b 0 5b 1 b 0 3a
  1 9 0 9 1 1 0 18 1 4 0 1 1 9 0 1 1 3 0 1 1 5 0 2b 1 3 0 34 1 2 0 6 1 8 0 2a 1 39 0 37 1 1 0 1
  1 1 0 4 1 8 0 4 1 1 0 3 1 7 0 a 1 2 0 1d 1 1 0 3a 1 1 0 1 1 1 0 2 1 4 0 8 1 1 0 9 1 1 0 a 1 2
  0 1a 1 1 0 2 1 2 0 39 1 1 0 4 1 2 0 4 1 2 0 2 1 3 0 3 1 1 0 1e 1 2 0 3 1 1 0 b 1 2 0 39 1 1 0
  4 1 5 0 1 1 2 0 4 1 1 0 14 1 2 0 16 1 6 0 1 1 1 0 3a 1 1 0 1 1 2 0 1 1 4 0 8 1 1 0 7 1 3 0 a 1
  2 0 1e 1 1 0 3b 1 1 0 1 1 1 0 c 1 1 0 9 1 1 0 28 1 1 0 3 1 1 0 37 1 1 0 1 1 3 0 5 1 3 0 1 1 4
  0 7 1 2 0 b 1 2 0 1d 1 1 0 3a 1 1 0 2 1 1 0 2 1 1 0 3 1 1 0 5 1 2 0 7 1 2 0 b 1 2 0 1c 1 2 0
  39 1 2 0 1 1 1 0 2 1 4 0 8 1 1 0 9 1 1 0 a 1 2 0 1d 1 1 0 48 1 1 0 4 1 1 0 2 1 3 0 1 1 1 0 8 1
  1 0 51 1 1 0 2 1 7 0 c 1 8 0 62 1 1 0 2 1 9 0 b 1 7 0 49 1 2 0 1b 1 1 0 1 1 1 0 1 1 1 0 37 1 e
  0 1 1 5 0 1 1 2 0 5 1 b 0 1 1 24 0 9 1 1 0 66 1 4 0 1 1 6 0 1 1 2 0 2 1 2 0 19 1 2 0 4 1 3 0
  10 1 4 0 d 1 1 0 2 1 2 0 6 1 1 0 f 1 1 0 62 1 60 2 a0 0 15d 1 3 0 3b2 1 3 0 1d 1 2 0 1e 1 2 0
  1e 1 2 0 30 1 1 2 f 1 2 0 1 1 7 0 8 1 1 0 2 1 b 0 4 1 1 3 4 1 1 0 2d 1 5 0 75 1 2 0 22 1 1 0
  76 1 3 0 4 1 2 0 9 1 1 0 6 1 3 0 db 1 2 0 2 1 1 0 3a 1 1 0 1 1 7 0 1 1 1 0 1 1 1 0 2 1 8 0 6 1
  a 0 2 1 1 0 30 1 1f 0 31 1 4 0 30 1 7 0 1 1 1 0 5 1 1 0 28 1 9 0 c 1 2 0 20 1 4 0 2 1 2 0 1 1
  3 0 38 1 1 0 1 1 2 0 3 1 1 0 1 1 3 0 3a 1 8 0 2 1 2 0 98 1 3 0 1 1 d 0 1 1 7 0 4 1 1 0 6 1 1 0
  3 1 2 0 c6 1 40 0 20b 1 5 0 1a 1 5 0 31 1 10 0 60 1 21 0 229 1 2 2 d 1 2 2 be 1 4 2 3 1 1 2 2
  1 1 2 209 1 2 2 15 1 2 2 1a 1 8 2 10 1 c 2 2b 1 1 2 a 1 6 2 3 1 1 2 d 1 1 2 8 1 2 2 11 1 2 2 5
  1 2 2 8 1 1 2 5 1 1 2 15 1 1 2 7 1 2 2 1 1 1 2 4 1 1 2 2 1 1 2 7 1 1 2 4 1 2 2 1c 1 1 2 23 1 1
  2 1 1 1 2 4 1 3 2 1 1 1 2 3d 1 3 2 18 1 1 2 e 1 1 2 35b 1 2 2 33 1 1 2 4 1 1 2 199 1 3 0 ee 1
  20 0 80 1 1a 2 1 1 59 2 c 1 d6 2 1a 1 3a 2 6 0 f 2 2 1 56 2 2 1 2 0 65 2 5 1 2b 2 1 1 33 2 1 0
  2a 2 1 1 56 2 9 1 30 2 1 1 28 2 8 1 723d 2 3 1 37 2 1a8 1 4 0 1 1 a 0 20 1 2 0 50 1 2 0 110 1
  1 0 3 1 1 0 4 1 1 0 19 1 2 0 5 1 1 0 97 1 2 0 1a 1 12 0 8 1 1 0 4 1 1 0 26 1 8 0 19 1 b 0 e 1
  1d 2 3 1 3 0 30 1 1 0 2 1 4 0 2 1 2 0 27 1 1 0 43 1 6 0 2 1 2 0 2 1 2 0 c 1 1 0 8 1 1 0 2f 1 1
  0 33 1 1 0 1 1 3 0 2 1 2 0 5 1 2 0 1 1 1 0 2a 1 2 0 8 1 1 0 ee 1 1 0 2 1 1 0 4 1 1 0 12 1 2ba4
  2 c 1 17 0 4 1 31 0 2104 1 200 2 1e 1 1 0 2e1 1 10 0 a 2 6 1 10 0 23 2 1 1 13 2 1 1 4 2 93 1 1
  0 1 1 60 2 3d 1 3 0 3f 1 7 2 9 1 9 0 204 1 1 0 e2 1 1 0 95 1 5 0 686 1 3 0 1 1 2 0 5 1 4 0 28
  1 3 0 4 1 1 0 a5 1 2 0 23d 1 4 0 183 1 2 0 50 1 3 0 46 1 b 0 31 1 4 0 7b 1 1 0 36 1 f 0 29 1 1
  0 2 1 2 0 a 1 3 0 31 1 4 0 2 1 2 0 7 1 1 0 3d 1 3 0 24 1 5 0 1 1 8 0 3e 1 1 0 c 1 2 0 34 1 9 0
  a 1 4 0 2 1 1 0 5f 1 3 0 2 1 1 0 1 1 2 0 6 1 1 0 2 1 1 0 9d 1 1 0 3 1 8 0 15 1 2 0 39 1 2 0 1
  1 1 0 1 1 1 0 16 1 1 0 e 1 7 0 3 1 5 0 c3 1 8 0 2 1 3 0 1 1 1 0 17 1 1 0 51 1 1 0 2 1 6 0 1 1
  1 0 2 1 1 0 1 1 2 0 1 1 2 0 eb 1 1 0 2 1 4 0 6 1 2 0 1 1 2 0 1b 1 2 0 55 1 8 0 2 1 1 0 1 1 2 0
  6a 1 1 0 1 1 1 0 2 1 6 0 1 1 1 0 65 1 3 0 2 1 4 0 1 1 5 0 103 1 9 0 1 1 2 0 f5 1 1 0 a 1 2 0 1
  1 1 0 4 1 1 0 90 1 4 0 2 1 2 0 4 1 1 0 20 1 a 0 28 1 6 0 2 1 4 0 8 1 1 0 9 1 6 0 2 1 3 0 2e 1
  d 0 1 1 2 0 196 1 7 0 1 1 6 0 1 1 1 0 52 1 16 0 2 1 7 0 1 1 2 0 1 1 2 0 7a 1 6 0 3 1 1 0 1 1 2
  0 1 1 7 0 1 1 1 0 48 1 2 0 3 1 1 0 1 1 1 0 15b 1 2 0 b 1 2 0 34 1 5 0 5 1 1 0 1 1 1 0 14fd 1 1
  0 6 1 f 0 369a 1 5 0 3b 1 7 0 418 1 1 0 3f 1 4 0 4d 1 4 2 1 0 b 1 2 2 e 1 17f8 2 8 1 4d6 2 2a
  1 9 2 22e7 1 4 2 1 1 7 2 1 1 2 2 1 1 123 2 f 1 1 2 1d 1 3 2 2 1 1 2 e 1 4 2 8 1 18c 2 9a1 1 2
  0 1 1 4 0 125c 1 2e 0 2 1 17 0 21e 1 1 0 1 1 3 0 4 1 15 0 2 1 7 0 1e 1 4 0 94 1 3 0 bb 1 57 2
  9 1 17 2 689 1 37 0 4 1 32 0 8 1 1 0 e 1 1 0 16 1 5 0 1 1 f 0 550 1 7 0 1 1 11 0 2 1 7 0 1 1 2
  0 1 1 5 0 64 1 1 0 a0 1 7 0 177 1 1 0 3d 1 4 0 1fc 1 4 0 3e0 1 7 0 6d 1 7 0 6b9 1 1 2 ca 1 1 2
  be 1 1 2 2 1 a 2 65 1 3 2 d 1 2c 2 4 1 9 2 7 1 2 2 e 1 6 2 9a 1 21 2 c 1 9 2 1 1 46 2 1 1 16 2
  c 1 2b 2 4 1 5 2 c 1 11 2 3 1 1 2 3 1 47 2 1 1 1 2 1 1 bb 2 2 1 3f 2 d 1 4 2 1 1 18 2 12 1 1 2
  1a 1 2 2 d 1 1 2 56 1 55 2 30 1 46 2 6 1 1 2 3 1 3 2 2 1 3 2 4 1 4 2 b 1 2 2 7 1 9 2 e3 1 c 2
  4 1 1 2 11b 1 2f 2 1 1 a 2 1 1 b9 2 70 1 d 2 3 1 a 2 5 1 38 2 7 1 f 2 2 1 b 2 6 1 9 2 507 1
  fffe 2 2 1 fffe 2 a0002 1 1000 0 2f000 1"

/-- Runs of the characters without width that leave Arabic letters joined. -/
def transparentRuns : String :=
  "ad 1 252 70 113 7 107 2d 1 1 1 2 1 2 1 1 48 b 1 1 2e 15 10 1 65 7 2 6 2 2 1 4 21 1 1 1 1e 1b
  5b b 3a 9 9 1 18 4 1 9 1 3 1 5 2b 3 3c 8 2a 18 1 20 37 1 1 1 4 8 4 1 3 7 a 2 1d 1 3a 1 4 4 8 1
  14 2 1a 1 2 2 39 1 4 2 4 2 2 3 3 1 1e 2 3 1 b 2 39 1 4 5 1 2 4 1 14 2 16 6 1 1 3a 1 2 1 1 4 8
  1 7 2 b 2 1e 1 3d 1 c 1 32 1 3 1 37 1 1 3 5 3 1 4 7 2 b 2 1d 1 3a 1 2 1 6 1 5 2 14 2 1c 2 39 2
  4 4 8 1 14 2 1d 1 48 1 7 3 1 1 5a 1 2 7 c 8 62 1 2 9 b 7 49 2 1b 1 1 1 1 1 37 e 1 5 1 2 5 b 1
  24 9 1 66 4 1 6 1 2 2 2 19 2 4 3 10 4 d 1 2 2 6 1 f 1 2bf 3 3b2 3 1d 2 1e 2 1e 2 40 2 1 7 8 1
  2 b 9 1 2d 3 1 1 75 2 22 1 76 3 4 2 9 1 6 3 db 2 2 1 3a 1 1 7 1 1 1 1 2 8 6 a 2 1 30 1f 31 4
  30 1 1 5 1 1 5 1 28 9 c 2 20 4 2 2 1 3 38 1 1 2 3 1 1 3 3a 8 2 2 98 3 1 d 1 7 4 1 6 1 3 2 c6
  40 20b 1 2 2 1a 5 31 5 5 6 60 21 bfe 3 ee 20 22a 4 6b 2 75d4 4 1 a 20 2 50 2 110 1 3 1 4 1 19
  2 5 1 97 2 1a 12 d 1 26 8 19 b 2e 3 30 1 2 4 2 2 27 1 43 6 2 2 2 2 c 1 8 1 2f 1 33 1 1 3 2 2 5
  2 1 1 2a 2 8 1 ee 1 2 1 4 1 4f30 1 2e1 10 10 10 cf 1 2fd 1 e2 1 95 5 686 3 1 2 5 4 28 3 4 1 a5
  2 23d 4 183 2 50 3 46 b 31 4 7b 1 36 f 29 1 2 2 a 3 31 4 2 2 7 1 3d 3 24 5 1 8 3e 1 c 2 34 9 a
  4 2 1 5f 3 2 1 1 2 6 1 2 1 9d 1 3 8 15 2 39 2 3 1 25 7 3 5 c3 8 2 3 1 1 17 1 54 6 1 1 4 2 1 2
  ee 4 6 2 1 2 1b 2 55 8 2 1 1 2 6a 1 1 1 2 6 1 1 65 3 2 4 1 5 103 9 1 2 100 2 1 1 4 1 90 4 2 2
  4 1 20 a 28 6 2 4 8 1 9 6 2 3 2e d 1 2 196 7 1 6 1 1 52 16 2 7 1 2 1 2 7a 6 3 1 1 2 1 7 1 1 48
  2 3 1 1 1 15b 2 b 2 34 5 5 1 1 1 14fd 1 6 f 369a 5 3b 7 418 1 3f 4 51 1 4cb8 2 1 4 125c 2e 2
  17 220 3 9 10 2 7 1e 4 94 3 7bb 37 4 32 8 1 e 1 16 5 1 f 550 7 1 11 2 7 1 2 1 5 64 1 a0 7 177
  1 3d 4 1fc 4 3e0 7 6d 7 c16b6 1 1e 60 80 f0"

end ScreenQuery.Text
