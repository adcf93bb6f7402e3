import ClusterFramework.Text.Mark

/-! The directions in which characters are written. -/
namespace ClusterFramework
namespace Text

/-- Neutral characters follow those around them. -/
inductive Direction where
  | left
  | right
  | mark
  | europeanNumber
  | arabicNumber
  | neutral
  deriving DecidableEq,Repr

def rightward : List (Nat × Nat) := rangesOf "
    5be 5f4; 608 608; 60b 60b; 60d 60d; 61b 64a; 66d 6d5; 6e5 6e6; 6ee 6ef; 6fa 7f5; 7fa 8c9;
    fbb2 fbc2; fe73 fe73; 10800 1091b; 10920 10b35; 10b40 10d23; 10d40 10d4f; 10d6f 10d85;
    10e80 10ec7; 10f00 10ff6; 1e800 1ed3d;"

def arabicNumbers : List (Nat × Nat) := rangesOf "
    660 669; 66b 66c; 10d30 10d39; 10e60 10e7e;"

def europeanNumbers : List (Nat × Nat) := rangesOf "
    6f0 6f9; 102e1 102fb;"

def neutrals : List (Nat × Nat) := rangesOf "
    a1 d7; f7 f7; 2b9 2ba; 2c2 2cf; 2d2 2ed; 2ef 2ff; 375 375; 3f6 3f6; 58a 58f; 606 607; 609 60a;
    60c 60c; 60e 60f; 66a 66a; 6de 6de; 6e9 6e9; 7f6 7f9; 9f2 9f3; 9fb 9fb; af1 af1; bf3 bfa;
    c78 c7e; e3f e3f; f3a f3d; 1390 1399; 1400 1400; 169b 169c; 17db 17db; 17f0 180a; 1940 1945;
    19de 19ff; 1b4e 1b4f; 1b7f 1b7f; 200c 214d; 218a 2335; 237b 2394; 2396 26ab; 26ad 27ff;
    2900 2bff; 2ce5 2cea; 2cf9 2cff; 2e00 3004; 3008 3020; 3030 3030; 3037 3037; 303d 303f;
    30a0 30a0; 30fb 30fb; 31c0 31e5; 4dc0 4dff; a490 a4c6; a60d a60f; a673 a67f; a700 a721;
    a788 a788; a828 a82b; a838 a839; a874 a877; ab6a ab6b; fbc3 fe46; 10101 10101; 10140 1018c;
    10190 101a0; 1091f 1091f; 10b39 10b3f; 10d6e 10d6e; 10d8e 10d8f; 10ed0 10ed8; 11052 11065;
    113d4 113d8; 11660 1166c; 11be1 11be1; 11fd5 11ff1; 16d6d 16d6f; 16fe2 16fe2; 1cc00 1cef0;
    1d1e9 1d245; 1d300 1d356; 1e2ff 1e2ff; 1e5ff 1e5ff; 1eef0 1f12f; 1f16d 1f16f; 1f1ad 1f1ad;
    1f260 1fbfa;"

/-- Marks that count as letters. -/
def letterMarks : List (Nat × Nat) := rangesOf "
    cbf cbf; cc6 cc6; 11a07 11a08; 11c3f 11c3f;"

def directionOf (c : Char) : Direction :=
  if c.toNat < 128 then
    if c.isAlpha then .left else if c.isDigit then .europeanNumber else .neutral
  else if isNonspacing c && !inRanges letterMarks c then .mark
  else if inRanges rightward c then .right
  else if inRanges arabicNumbers c then .arabicNumber
  else if inRanges europeanNumbers c then .europeanNumber
  else if inRanges neutrals c then .neutral
  else .left

end Text
end ClusterFramework
