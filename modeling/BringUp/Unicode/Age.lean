import BringUp.Unicode.Category

/-!
# Ages

The version of the character standard in which each code point was first assigned.
-/

namespace BringUp.Unicode.Age

/-- The runs of equal age from code point 0 to the last one, with `0` for unassigned ones. -/
def table : String :=
  "502 1.1 4 3.0 30 1.1 8 3.0 1 3.2 1 4.0 18 3.0 3 4.0 11 4.1 14 5.0 89 1.1 5 3.0 2 4.0 47 1.1 1
  3.0 10 1.1 5 3.0 17 4.0 70 1.1 9 3.0 1 3.2 8 4.0 5 4.1 3 4.0 2 1.1 1 3.0 13 3.2 4 5.1 2 1.1 2
  5.1 2 0 1 1.1 3 5.0 1 1.1 1 7.0 4 0 7 1.1 1 0 1 1.1 1 0 20 1.1 1 0 44 1.1 1 5.1 7 1.1 1 3.0 2
  3.2 1 1.1 1 3.0 1 1.1 1 3.0 1 1.1 1 3.0 1 1.1 1 3.0 18 1.1 2 3.1 1 3.2 5 4.0 4 4.1 1 3.0 12
  1.1 1 3.0 66 1.1 1 3.0 12 1.1 1 3.0 41 1.1 1 5.1 2 3.0 2 3.2 4 3.0 53 1.1 2 3.2 2 1.1 2 3.2 2
  1.1 2 3.2 1 5.0 28 1.1 2 3.0 8 1.1 2 4.1 2 1.1 6 5.0 16 3.2 4 5.0 16 5.1 2 5.2 2 6.0 8 7.0 1 0
  38 1.1 2 0 7 1.1 1 11.0 39 1.1 1 11.0 1 1.1 1 3.0 2 0 2 7.0 1 6.1 1 0 17 2.0 1 4.1 13 2.0 10
  1.1 1 5.0 9 1.1 1 2.0 3 4.1 8 0 27 1.1 4 0 1 11.0 5 1.1 11 0 4 4.0 1 6.1 1 7.0 5 5.1 1 4.1 1
  1.1 9 4.0 5 5.1 1 1.1 1 6.3 1 14.0 1 4.1 1 1.1 1 6.0 26 1.1 5 5.1 19 1.1 3 3.0 3 4.0 6 4.1 1
  6.0 14 1.1 2 3.2 72 1.1 2 3.0 5 1.1 1 3.0 15 1.1 1 3.0 30 1.1 2 4.0 10 1.1 5 3.0 1 4.0 14 3.0
  1 0 30 3.0 3 4.0 27 3.0 2 0 3 4.0 30 4.1 18 5.1 49 3.0 1 3.2 14 0 59 5.0 2 0 3 11.0 46 5.2 2 0
  15 5.2 1 0 28 6.0 2 0 1 6.0 1 0 11 10.0 5 0 31 14.0 1 0 2 14.0 5 0 1 16.0 8 14.0 1 6.1 1 7.0
  11 6.1 6 7.0 2 8.0 1 14.0 8 9.0 10 13.0 11 14.0 1 11.0 15 9.0 1 8.0 27 6.1 1 7.0 1 5.2 3 1.1 1
  4.0 53 1.1 2 6.0 18 1.1 1 5.2 1 6.0 5 1.1 1 5.2 2 6.0 25 1.1 2 5.1 5 6.0 1 7.0 2 5.2 2 5.0 1
  4.1 2 5.0 1 7.0 3 1.1 1 0 8 1.1 2 0 2 1.1 2 0 22 1.1 1 0 7 1.1 1 0 1 1.1 3 0 4 1.1 2 0 1 1.1 1
  4.0 7 1.1 2 0 2 1.1 2 0 3 1.1 1 4.1 8 0 1 1.1 4 0 2 1.1 1 0 5 1.1 2 0 21 1.1 1 5.2 2 10.0 1
  11.0 2 0 1 4.0 1 1.1 1 4.0 1 0 6 1.1 4 0 2 1.1 2 0 22 1.1 1 0 7 1.1 1 0 2 1.1 1 0 2 1.1 1 0 2
  1.1 2 0 1 1.1 1 0 5 1.1 4 0 2 1.1 2 0 3 1.1 3 0 1 5.1 7 0 4 1.1 1 0 1 1.1 7 0 15 1.1 1 5.1 1
  11.0 10 0 3 1.1 1 0 7 1.1 1 4.0 1 1.1 1 0 3 1.1 1 0 22 1.1 1 0 7 1.1 1 0 2 1.1 1 0 5 1.1 2 0
  10 1.1 1 0 3 1.1 1 0 3 1.1 2 0 1 1.1 15 0 1 1.1 3 4.0 2 0 10 1.1 1 6.1 1 4.0 7 0 1 8.0 6 10.0
  1 0 3 1.1 1 0 8 1.1 2 0 2 1.1 2 0 22 1.1 1 0 7 1.1 1 0 2 1.1 1 0 1 4.0 4 1.1 2 0 8 1.1 1 5.1 2
  0 2 1.1 2 0 3 1.1 7 0 1 13.0 2 1.1 4 0 2 1.1 1 0 3 1.1 2 5.1 2 0 11 1.1 1 4.0 6 6.0 10 0 2 1.1
  1 0 6 1.1 3 0 3 1.1 1 0 4 1.1 3 0 2 1.1 1 0 1 1.1 1 0 2 1.1 3 0 2 1.1 3 0 3 1.1 3 0 8 1.1 1
  4.1 3 1.1 4 0 5 1.1 3 0 3 1.1 1 0 4 1.1 2 0 1 5.1 6 0 1 1.1 14 0 1 4.1 12 1.1 8 4.0 5 0 1 7.0
  3 1.1 1 11.0 8 1.1 1 0 3 1.1 1 0 23 1.1 1 0 10 1.1 1 7.0 5 1.1 2 0 1 14.0 1 5.1 7 1.1 1 0 3
  1.1 1 0 4 1.1 7 0 2 1.1 1 0 2 5.1 1 8.0 2 0 1 14.0 2 0 2 1.1 2 5.1 2 0 10 1.1 7 0 1 12.0 8 5.1
  1 9.0 1 7.0 2 1.1 1 11.0 8 1.1 1 0 3 1.1 1 0 23 1.1 1 0 10 1.1 1 0 5 1.1 2 0 2 4.0 7 1.1 1 0 3
  1.1 1 0 4 1.1 7 0 2 1.1 6 0 1 14.0 1 1.1 1 0 2 1.1 2 5.0 2 0 10 1.1 1 0 2 5.0 1 15.0 12 0 1
  10.0 1 7.0 2 1.1 1 13.0 8 1.1 1 0 3 1.1 1 0 23 1.1 1 6.0 16 1.1 1 6.0 2 10.0 1 5.1 6 1.1 1 5.1
  1 0 3 1.1 1 0 4 1.1 1 6.0 1 9.0 4 0 3 9.0 1 1.1 7 9.0 1 8.0 2 1.1 2 5.1 2 0 10 1.1 6 5.1 3 9.0
  7 5.1 1 0 1 13.0 2 3.0 1 0 18 3.0 3 0 24 3.0 1 0 9 3.0 1 0 1 3.0 2 0 7 3.0 3 0 1 3.0 4 0 6 3.0
  1 0 1 3.0 1 0 8 3.0 6 0 10 7.0 2 0 3 3.0 12 0 58 1.1 4 0 29 1.1 37 0 2 1.1 1 0 1 1.1 1 0 1
  12.0 2 1.1 1 12.0 1 1.1 1 0 1 12.0 1 1.1 6 12.0 4 1.1 1 12.0 7 1.1 1 12.0 3 1.1 1 0 1 1.1 1 0
  1 1.1 2 12.0 2 1.1 1 12.0 13 1.1 1 12.0 3 1.1 2 0 5 1.1 1 0 1 1.1 1 0 6 1.1 1 15.0 1 0 10 1.1
  2 0 2 1.1 2 6.1 32 0 72 2.0 1 0 33 2.0 1 3.0 2 5.1 4 0 27 2.0 4 6.0 6 2.0 1 3.0 1 2.0 1 0 21
  2.0 3 3.0 7 2.0 1 3.0 1 2.0 3 3.0 1 0 15 3.0 1 0 1 5.1 1 3.0 2 4.1 3 5.1 4 5.2 2 6.0 37 0 34
  3.0 1 5.1 5 3.0 1 5.1 2 3.0 1 5.1 7 3.0 3 5.1 4 3.0 6 5.1 26 3.0 64 5.1 4 5.2 2 5.1 38 1.1 1 0
  1 6.1 5 0 1 6.1 2 0 39 1.1 2 3.2 2 4.1 1 1.1 1 4.1 3 6.1 90 1.1 5 5.2 68 1.1 5 5.2 82 1.1 6
  5.2 7 3.0 1 4.1 63 3.0 1 4.1 1 3.0 1 0 4 3.0 2 0 7 3.0 1 0 1 3.0 1 0 4 3.0 2 0 39 3.0 1 4.1 1
  3.0 1 0 4 3.0 2 0 31 3.0 1 4.1 1 3.0 1 0 4 3.0 2 0 7 3.0 1 0 1 3.0 1 0 4 3.0 2 0 7 3.0 1 4.1 7
  3.0 1 0 23 3.0 1 4.1 31 3.0 1 4.1 1 3.0 1 0 4 3.0 2 0 7 3.0 1 4.1 39 3.0 1 4.1 19 3.0 2 0 2
  6.0 2 4.1 28 3.0 3 0 26 4.1 6 0 85 3.0 1 8.0 2 0 6 8.0 2 0 1 5.2 630 3.0 9 5.2 29 3.0 3 0 81
  3.0 8 7.0 7 0 13 3.2 1 14.0 7 3.2 1 14.0 9 0 1 14.0 23 3.2 9 0 20 3.2 12 0 13 3.2 1 0 3 3.2 1
  0 2 3.2 12 0 93 3.0 1 4.0 2 0 10 3.0 6 0 10 4.0 6 0 15 3.0 1 14.0 10 3.0 6 0 88 3.0 1 11.0 7 0
  42 3.0 1 5.1 5 0 70 5.2 10 0 29 4.0 2 7.0 1 0 12 4.0 4 0 12 4.0 4 0 1 4.0 3 0 42 4.0 2 0 5 4.0
  11 0 42 4.1 2 5.2 4 0 26 4.1 6 0 10 4.1 1 5.2 3 0 2 4.1 32 4.0 28 4.1 2 0 2 4.1 63 5.2 1 0 29
  5.2 2 0 11 5.2 6 0 10 5.2 6 0 14 5.2 2 0 15 7.0 2 13.0 14 14.0 49 0 76 5.0 1 14.0 1 0 2 16.0
  45 5.0 2 14.0 1 16.0 43 5.1 3 6.1 12 5.1 6 6.1 52 6.0 8 0 4 6.0 56 5.1 3 0 15 5.1 3 0 51 5.1 9
  9.0 2 16.0 5 0 43 11.0 2 0 3 11.0 8 6.1 8 0 35 5.2 4 6.1 1 10.0 2 7.0 1 12.0 5 0 108 4.0 88
  4.1 7 5.0 28 5.1 15 7.0 4 10.0 1 14.0 1 9.0 1 6.0 1 5.2 2 5.0 155 1.1 1 2.0 4 5.1 90 1.1 6 5.1
  22 1.1 2 0 6 1.1 2 0 38 1.1 2 0 6 1.1 2 0 8 1.1 1 0 1 1.1 1 0 1 1.1 1 0 1 1.1 1 0 31 1.1 2 0
  53 1.1 1 0 15 1.1 1 0 14 1.1 2 0 6 1.1 1 0 19 1.1 2 0 3 1.1 1 0 9 1.1 1 0 47 1.1 1 3.0 23 1.1
  1 3.2 6 3.0 5 3.2 2 4.0 2 4.1 1 3.2 7 4.1 5 3.2 1 5.1 1 0 4 6.3 7 1.1 1 3.2 2 0 27 1.1 1 0 5
  4.1 8 6.0 3 0 11 1.1 1 2.0 1 2.1 3 3.0 2 3.2 4 4.1 3 5.2 1 6.0 1 6.2 3 7.0 1 8.0 1 10.0 1 14.0
  15 0 18 1.1 2 3.0 7 3.2 1 4.1 4 5.0 1 5.1 15 0 57 1.1 2 3.0 1 4.0 1 4.1 15 3.2 1 4.1 2 5.0 1
  5.1 3 5.2 48 1.1 1 3.0 1 5.0 4 5.1 1 5.2 2 8.0 4 0 91 1.1 9 3.0 12 3.2 242 1.1 14 3.2 1 1.1 1
  3.0 121 1.1 1 3.0 1 3.2 30 3.0 52 3.2 2 4.0 11 4.1 12 5.0 1 5.2 11 6.0 7 7.0 4 9.0 1 10.0 37
  1.1 2 3.0 3 16.0 22 0 11 1.1 21 0 139 1.1 20 3.2 1 4.0 150 1.1 10 3.2 80 1.1 8 3.0 8 3.2 20
  1.1 2 4.0 2 3.2 1 4.1 1 3.0 86 1.1 2 3.0 12 3.2 2 4.1 10 3.2 8 4.0 11 4.1 1 5.1 2 5.2 2 4.0 16
  4.1 1 5.0 10 5.1 3 5.2 4 5.1 10 5.2 1 6.0 19 5.2 1 6.0 1 5.2 4 6.0 24 5.2 1 7.0 4 1.1 1 6.0 4
  1.1 2 6.0 28 1.1 1 6.0 35 1.1 1 6.0 1 1.1 1 6.0 4 1.1 3 6.0 1 1.1 1 5.2 7 1.1 2 6.0 7 1.1 14
  3.2 31 1.1 3 6.0 24 1.1 1 6.0 14 1.1 1 6.0 7 4.1 4 5.0 1 6.1 1 5.1 1 6.1 2 6.0 28 3.2 4 5.1 16
  3.2 256 3.0 512 3.2 14 4.0 6 4.1 7 5.0 5 5.1 4 5.0 41 5.1 3 7.0 5 5.1 5 5.2 26 7.0 2 0 32 7.0
  1 0 1 13.0 34 7.0 3 11.0 12 7.0 1 12.0 8 7.0 1 10.0 25 11.0 4 8.0 15 11.0 1 12.0 47 4.1 1 14.0
  47 4.1 1 14.0 13 5.0 3 5.1 1 5.2 3 5.1 4 5.0 6 5.1 2 5.2 107 4.1 7 5.2 2 6.1 5 0 45 4.1 1 0 1
  6.1 5 0 1 6.1 2 0 54 4.1 2 6.1 7 0 1 4.1 1 6.0 14 0 1 6.0 23 4.1 9 0 7 4.1 1 0 7 4.1 1 0 7 4.1
  1 0 7 4.1 1 0 7 4.1 1 0 7 4.1 1 0 7 4.1 1 0 7 4.1 1 0 32 5.1 24 4.1 4 5.1 2 4.1 19 5.1 1 5.2
  10 6.1 7 7.0 2 9.0 5 10.0 5 11.0 1 12.0 3 13.0 11 14.0 34 0 26 3.0 1 0 89 3.0 12 0 214 3.0 26
  0 12 3.0 4 15.1 56 1.1 3 3.0 3 3.2 1 3.0 1 1.1 1 0 84 1.1 2 3.2 2 0 6 1.1 2 3.2 94 1.1 1 3.2 5
  0 40 1.1 1 5.1 1 10.0 1 11.0 1 0 94 1.1 1 0 16 1.1 24 3.0 3 6.0 5 13.0 16 4.1 20 5.1 2 16.0 9
  0 1 15.1 16 3.2 29 1.1 2 4.0 1 0 36 1.1 12 5.2 1 4.0 15 3.2 28 1.1 2 4.0 1 4.1 50 1.1 15 3.2
  12 1.1 4 4.0 47 1.1 1 12.1 119 1.1 4 4.0 99 1.1 2 4.0 31 1.1 1 4.0 6582 3.0 10 13.0 64 4.0
  20902 1.1 22 4.1 8 5.1 8 5.2 1 6.1 9 8.0 21 10.0 5 11.0 13 13.0 3 14.0 1165 3.0 3 0 18 3.0 2
  3.2 16 3.0 1 3.2 12 3.0 1 3.2 3 3.0 1 3.2 1 3.0 9 0 48 5.2 300 5.1 20 0 32 5.1 2 6.0 18 5.1 8
  6.1 28 5.1 6 7.0 1 8.0 1 6.1 88 5.2 8 0 23 4.1 4 5.0 5 5.1 2 5.0 107 5.1 2 6.0 1 8.0 2 6.0 2
  6.1 12 7.0 10 6.0 1 6.1 3 7.0 1 9.0 1 11.0 2 7.0 6 8.0 2 11.0 6 12.0 2 14.0 5 12.0 4 13.0 3
  16.0 2 0 2 14.0 1 0 1 14.0 1 0 5 14.0 3 16.0 21 0 3 14.0 2 13.0 1 7.0 2 6.1 1 6.0 5 5.1 44 4.1
  1 13.0 3 0 10 5.2 6 0 56 5.0 8 0 69 5.1 1 9.0 8 0 12 5.1 6 0 28 5.2 2 8.0 2 11.0 84 5.1 11 0 1
  5.1 29 5.2 3 0 78 5.2 1 0 11 5.2 4 0 2 5.2 31 7.0 1 0 55 5.1 9 0 14 5.1 2 0 10 5.1 2 0 4 5.1
  28 5.2 4 7.0 67 5.2 24 0 5 5.2 23 6.1 10 0 6 6.0 2 0 6 6.0 2 0 6 6.0 9 0 7 6.0 1 0 7 6.0 1 0
  48 7.0 4 8.0 2 7.0 2 12.0 4 13.0 4 0 80 8.0 46 5.2 2 0 10 5.2 6 0 11172 2.0 12 0 23 5.2 4 0 49
  5.2 4 0 2048 2.0 6702 1.1 2 6.1 59 3.2 3 5.2 2 0 106 4.1 38 0 7 1.1 12 0 5 1.1 5 0 1 3.0 25
  1.1 1 0 5 1.1 1 0 1 1.1 1 0 2 1.1 1 0 2 1.1 1 0 108 1.1 16 6.0 1 14.0 16 0 365 1.1 16 14.0 64
  1.1 2 0 54 1.1 7 0 1 14.0 32 3.1 12 1.1 1 3.2 1 4.0 2 14.0 16 3.2 10 4.1 6 0 4 1.1 3 5.1 7 7.0
  2 8.0 21 1.1 2 3.2 2 4.0 10 1.1 1 0 19 1.1 1 0 4 1.1 4 0 3 1.1 1 3.2 1 1.1 1 0 135 1.1 2 0 1
  1.1 1 0 94 1.1 2 3.2 94 1.1 3 0 6 1.1 2 0 6 1.1 2 0 6 1.1 2 0 3 1.1 3 0 7 1.1 1 0 7 1.1 10 0 3
  3.0 1 2.1 3 1.1 12 4.0 1 0 26 4.0 1 0 19 4.0 1 0 2 4.0 1 0 15 4.0 2 0 14 4.0 34 0 123 4.0 5 0
  3 4.0 4 0 45 4.0 3 0 9 4.0 75 4.1 2 7.0 2 9.0 1 0 12 5.1 1 13.0 3 0 1 7.0 47 0 46 5.1 130 0 29
  5.1 3 0 49 5.1 15 0 28 7.0 4 0 31 3.1 1 7.0 4 3.1 9 0 3 10.0 27 3.1 5 0 43 7.0 5 0 30 4.0 1 0
  1 4.0 36 4.1 4 0 14 4.1 42 0 38 3.1 2 4.0 38 3.1 80 4.0 2 0 10 4.0 6 0 36 9.0 4 0 36 9.0 4 0
  40 7.0 8 0 52 7.0 11 0 1 7.0 11 14.0 1 0 15 14.0 1 0 7 14.0 1 0 2 14.0 1 0 11 14.0 1 0 15 14.0
  1 0 7 14.0 1 0 2 14.0 3 0 52 16.0 12 0 311 7.0 9 0 22 7.0 10 0 8 7.0 24 0 6 14.0 1 0 42 14.0 1
  0 9 14.0 69 0 6 4.0 2 0 1 4.0 1 0 44 4.0 1 0 2 4.0 3 0 1 4.0 2 0 1 4.0 22 5.2 1 0 9 5.2 63 7.0
  8 0 9 7.0 48 0 19 8.0 1 0 2 8.0 5 0 5 8.0 26 5.0 2 5.2 3 0 1 5.0 26 5.1 5 0 1 5.1 64 0 56 6.1
  4 0 2 8.0 2 6.1 16 8.0 2 0 46 8.0 4 4.1 1 0 2 4.1 5 0 8 4.1 1 0 3 4.1 1 0 27 4.1 2 11.0 2 0 3
  4.1 4 0 9 4.1 1 11.0 7 0 9 4.1 7 0 32 5.2 32 7.0 32 0 39 7.0 4 0 12 7.0 9 0 54 5.2 3 0 29 5.2
  2 0 27 5.2 5 0 8 5.2 18 7.0 7 0 4 7.0 12 0 7 7.0 80 0 73 5.2 55 0 51 8.0 13 0 51 8.0 7 0 6 8.0
  40 11.0 8 0 10 11.0 6 0 38 16.0 3 0 29 16.0 8 0 2 16.0 208 0 31 5.2 1 0 42 13.0 1 0 3 13.0 2 0
  2 13.0 16 0 3 16.0 55 0 1 16.0 3 15.0 40 11.0 8 0 42 11.0 22 0 26 14.0 38 0 28 13.0 20 0 23
  12.0 9 0 78 6.0 4 0 30 6.0 6 14.0 9 0 1 7.0 66 5.2 1 14.0 10 0 1 11.0 2 0 25 6.1 7 0 10 6.1 6
  0 53 6.1 1 0 14 6.1 3 11.0 1 13.0 8 0 39 7.0 9 0 73 6.1 4 8.0 1 7.0 2 13.0 10 6.1 1 7.0 5 8.0
  1 0 20 7.0 11 0 18 7.0 1 0 43 7.0 1 9.0 3 15.0 62 0 7 8.0 1 0 1 8.0 1 0 4 8.0 1 0 15 8.0 1 0
  11 8.0 6 0 59 7.0 5 0 10 7.0 6 0 1 8.0 3 7.0 1 0 8 7.0 2 0 2 7.0 2 0 22 7.0 1 0 7 7.0 1 0 2
  7.0 1 0 5 7.0 1 0 1 11.0 9 7.0 2 0 2 7.0 2 0 3 7.0 2 0 1 8.0 6 0 1 7.0 5 0 7 7.0 2 0 7 7.0 3 0
  5 7.0 11 0 10 16.0 1 0 1 16.0 2 0 1 16.0 1 0 38 16.0 1 0 10 16.0 1 0 1 16.0 2 0 1 16.0 1 0 4
  16.0 1 0 10 16.0 1 0 2 16.0 8 0 2 16.0 29 0 90 9.0 1 13.0 1 9.0 1 0 1 9.0 1 11.0 1 12.0 2 13.0
  30 0 72 7.0 8 0 10 7.0 166 0 54 7.0 2 0 18 7.0 20 8.0 34 0 69 7.0 11 0 10 7.0 6 0 13 9.0 19 0
  56 6.1 1 12.0 1 14.0 6 0 10 6.1 6 0 20 16.0 28 0 26 8.0 1 11.0 2 0 15 8.0 4 0 16 8.0 7 14.0
  185 0 60 11.0 100 0 83 7.0 12 0 1 7.0 7 13.0 2 0 1 13.0 2 0 8 13.0 1 0 2 13.0 1 0 30 13.0 1 0
  2 13.0 2 0 12 13.0 9 0 10 13.0 70 0 8 12.0 2 0 46 12.0 2 0 11 12.0 27 0 72 10.0 8 0 52 10.0 2
  12.0 23 10.0 1 11.0 5 10.0 13 0 16 14.0 57 7.0 7 0 10 15.0 182 0 34 16.0 14 0 10 16.0 6 0 9
  9.0 1 0 45 9.0 1 0 14 9.0 10 0 29 9.0 3 0 32 9.0 2 0 22 9.0 1 0 14 9.0 73 0 7 10.0 1 0 2 10.0
  1 0 44 10.0 3 0 1 10.0 1 0 2 10.0 1 0 9 10.0 8 0 10 10.0 6 0 6 11.0 1 0 2 11.0 1 0 37 11.0 1 0
  2 11.0 1 0 6 11.0 7 0 10 11.0 310 0 25 11.0 7 0 17 15.0 1 0 41 15.0 3 0 28 15.0 1 16.0 85 0 1
  13.0 15 0 50 12.0 13 0 1 12.0 879 5.0 42 7.0 1 8.0 102 0 99 5.0 12 7.0 1 0 4 5.0 1 7.0 11 0
  196 8.0 2636 0 99 14.0 13 0 1071 5.2 1 15.0 9 12.0 29 15.0 10 0 3995 16.0 5 0 583 8.0 6841 0
  58 16.0 1734 0 569 6.0 7 0 31 7.0 1 0 10 7.0 4 0 2 7.0 79 14.0 1 0 10 14.0 6 0 30 7.0 2 0 6
  7.0 10 0 70 7.0 10 0 10 7.0 1 0 7 7.0 1 0 21 7.0 5 0 19 7.0 432 0 58 16.0 198 0 91 11.0 101 0
  69 6.1 6 12.0 4 0 1 12.0 47 6.1 9 12.0 7 0 17 6.1 64 0 1 9.0 1 10.0 2 12.0 1 13.0 11 0 2 13.0
  14 0 6125 9.0 5 11.0 6 12.0 8 0 755 9.0 483 13.0 41 0 1 16.0 9 13.0 8935 0 4 14.0 1 0 7 14.0 1
  0 2 14.0 1 0 2 6.0 285 10.0 4 14.0 15 0 1 15.0 29 0 3 12.0 2 0 1 15.0 14 0 4 12.0 8 0 396 10.0
  2308 0 107 7.0 5 0 13 7.0 3 0 9 7.0 7 0 10 7.0 2 0 8 7.0 3932 0 250 16.0 6 0 436 16.0 76 0 46
  14.0 2 0 23 14.0 9 0 116 14.0 60 0 246 3.1 10 0 39 3.1 2 0 1 5.1 180 3.1 11 8.0 2 14.0 21 0 70
  4.1 122 0 20 15.0 12 0 20 11.0 12 0 87 4.0 9 0 18 5.0 7 11.0 135 0 85 3.1 1 0 71 3.1 1 0 2 3.1
  2 0 1 3.1 2 0 2 3.1 2 0 4 3.1 1 0 12 3.1 1 0 1 3.1 1 0 4 3.1 1 4.0 2 3.1 1 0 65 3.1 1 0 4 3.1
  2 0 8 3.1 1 0 7 3.1 1 0 28 3.1 1 0 4 3.1 1 0 5 3.1 1 0 1 3.1 3 0 7 3.1 1 0 338 3.1 2 4.1 2 0
  290 3.1 2 5.0 2 0 50 3.1 652 8.0 15 0 5 8.0 1 0 15 8.0 1104 0 31 14.0 6 0 6 15.0 213 0 7 9.0 1
  0 17 9.0 2 0 7 9.0 1 0 2 9.0 1 0 5 9.0 5 0 62 15.0 33 0 1 15.0 112 0 45 12.0 3 0 14 12.0 2 0
  10 12.0 4 0 2 12.0 320 0 31 14.0 17 0 58 12.0 5 0 1 12.0 464 0 42 15.0 214 0 43 16.0 4 0 1
  16.0 480 0 7 14.0 1 0 4 14.0 1 0 2 14.0 1 0 15 14.0 1 0 197 7.0 2 0 16 7.0 41 0 75 9.0 1 12.0
  4 0 10 9.0 4 0 2 9.0 785 0 68 11.0 76 0 61 12.0 194 0 4 6.1 1 0 27 6.1 1 0 2 6.1 1 0 1 6.1 2 0
  1 6.1 1 0 10 6.1 1 0 4 6.1 1 0 1 6.1 1 0 1 6.1 6 0 1 6.1 4 0 1 6.1 1 0 1 6.1 1 0 1 6.1 1 0 3
  6.1 1 0 2 6.1 1 0 1 6.1 2 0 1 6.1 1 0 1 6.1 1 0 1 6.1 1 0 1 6.1 1 0 1 6.1 1 0 2 6.1 1 0 1 6.1
  2 0 4 6.1 1 0 7 6.1 1 0 4 6.1 1 0 4 6.1 1 0 1 6.1 1 0 10 6.1 1 0 17 6.1 5 0 3 6.1 1 0 5 6.1 1
  0 17 6.1 52 0 2 6.1 270 0 44 5.1 4 0 100 5.1 12 0 15 6.0 2 0 14 6.0 1 7.0 1 0 15 6.0 1 0 15
  6.0 22 7.0 10 0 11 5.2 2 7.0 3 13.0 31 5.2 1 11.0 1 6.0 1 5.2 11 6.0 1 5.2 1 6.0 1 5.2 2 6.0 1
  5.2 3 6.0 1 5.2 3 6.0 5 5.2 8 6.0 1 5.2 7 6.0 1 5.2 10 6.0 2 6.1 1 12.0 3 13.0 9 6.0 1 5.2 1
  6.0 2 5.2 2 6.0 1 5.2 10 6.0 4 5.2 2 6.0 1 5.2 10 6.0 18 9.0 1 13.0 56 0 26 6.0 1 5.2 2 6.0 13
  0 34 5.2 9 6.0 1 9.0 4 0 9 5.2 7 0 2 6.0 14 0 6 10.0 154 0 33 6.0 12 7.0 3 8.0 6 6.0 1 7.0 70
  6.0 1 7.0 2 8.0 20 6.0 12 7.0 37 6.0 1 7.0 5 6.0 4 7.0 5 8.0 12 7.0 17 6.0 7 7.0 8 8.0 63 6.0
  1 7.0 1 6.0 1 7.0 182 6.0 1 7.0 4 6.0 2 7.0 1 8.0 62 6.0 2 7.0 4 6.1 7 7.0 5 8.0 24 6.0 18 7.0
  1 9.0 41 7.0 1 9.0 86 7.0 5 6.0 1 6.1 16 6.0 1 6.1 3 6.0 1 6.1 1 6.0 1 6.1 1 6.0 1 6.1 1 6.0 1
  6.1 3 6.0 1 6.1 6 6.0 2 6.1 4 6.0 1 6.1 1 6.0 2 6.1 4 6.0 1 6.1 12 6.0 2 7.0 2 8.0 11 6.0 48
  7.0 70 6.0 10 7.0 1 8.0 2 9.0 2 10.0 1 12.0 2 13.0 4 0 1 15.0 3 14.0 13 7.0 3 0 4 7.0 3 9.0 2
  10.0 1 11.0 1 12.0 2 13.0 3 0 116 6.0 3 15.0 4 0 5 15.0 85 7.0 4 11.0 1 15.0 6 0 12 12.0 4 0 1
  14.0 15 0 12 7.0 4 0 56 7.0 8 0 10 7.0 6 0 40 7.0 8 0 30 7.0 2 0 2 13.0 10 16.0 4 0 2 16.0 62
  0 12 10.0 1 13.0 3 12.0 9 8.0 6 9.0 1 10.0 8 9.0 8 10.0 1 9.0 2 10.0 12 9.0 1 12.0 12 9.0 1
  10.0 3 11.0 15 9.0 13 10.0 5 11.0 1 12.0 1 13.0 4 11.0 2 13.0 1 14.0 1 11.0 1 12.0 4 11.0 5
  8.0 13 9.0 6 10.0 11 11.0 2 13.0 6 12.0 3 13.0 2 12.0 10 11.0 6 12.0 1 8.0 2 11.0 8 12.0 1
  13.0 1 14.0 3 12.0 23 10.0 25 11.0 84 12.0 12 0 14 11.0 2 0 4 12.0 1 13.0 3 15.0 3 12.0 2 14.0
  3 0 3 12.0 4 13.0 2 15.0 1 16.0 5 0 1 16.0 6 12.0 19 13.0 4 14.0 3 15.0 7 13.0 4 14.0 3 15.0 1
  16.0 1 15.0 3 13.0 3 14.0 1 16.0 7 0 2 15.0 7 13.0 3 14.0 2 15.0 1 16.0 2 0 1 16.0 8 14.0 1
  15.0 1 16.0 6 0 7 14.0 2 15.0 7 0 147 13.0 1 0 55 13.0 37 16.0 10 13.0 1028 0 2 2.0 42711 3.1
  7 13.0 2 14.0 32 0 4149 5.2 4 14.0 1 15.0 6 0 222 6.0 2 0 5762 8.0 14 0 7473 10.0 15 0 622
  15.1 2466 0 542 3.1 1504 0 2 2.0 4939 13.0 5 0 4192 15.0 56398 0 2 2.0 65534 0 2 2.0 65534 0 2
  2.0 65534 0 2 2.0 65534 0 2 2.0 65534 0 2 2.0 65534 0 2 2.0 65534 0 2 2.0 65534 0 2 2.0 65534
  0 2 2.0 65534 0 2 2.0 1 0 1 3.1 30 0 96 3.1 128 0 240 4.0 65038 0 131074 2.0"

/-- The versions, oldest first. -/
def versions : List String := [
  "1.1", "2.0", "2.1", "3.0", "3.1", "3.2", "4.0", "4.1", "5.0", "5.1", "5.2",
  "6.0", "6.1", "6.2", "6.3", "7.0", "8.0", "9.0", "10.0", "11.0", "12.0", "12.1",
  "13.0", "14.0", "15.0", "15.1", "16.0"]

/-- The version that a name stands for: `6.0`, or `v60` for `V6_0`. -/
def version? (name : String) : Option String :=
  versions.find? fun v => name == v || name == "v" ++ String.ofList (v.toList.filter (· != '.'))

/-- The code points assigned in the named version or an earlier one. -/
def named? (name : String) : Option CharSet :=
  (version? name).map fun v =>
    let upTo := v :: versions.takeWhile (· != v)
    .ofRanges <| (Category.readRuns 0 (CharSet.tableEntries table)).filterMap fun (lo, hi, age) =>
      if upTo.contains age then some (lo, hi) else none

end BringUp.Unicode.Age
