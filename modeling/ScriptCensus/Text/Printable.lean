import ScriptCensus.Text.Packed

/-!
# Characters that can be seen

The characters that have no form of their own: controls, unassigned and private code points, blanks
other than the space, and marks that extend the character before them.
-/

namespace ScriptCensus

/-- The ranges of characters without a form of their own, as packed numbers: for each range its
distance from the one before and its length less one. -/
def unseenRanges : String :=
  "0VZ0X1D0oJZF91738020L0d16b70X71XJ14XD20212128S37GBA20XFKH0Z67253123X1120VSYQA2DXC882P3282226G0Q4
  20C4X0GXBXOXO020575046B1U0309131N0802252203531302C3043P4207331N0803030334N5026B1402B20A040N08030
  625720322E33D627309131N08030622125313E3043JA207240523020323242D4203240422KM5409040O0H2225I412133
  B6B0C040O0B06231203N3033B03EC040XA1203440403340B3R130J2P0A021883586B14BXH03A97EX4302060P020B0382
  16028B15VP1S02020F0X5H24216XG9070EX4XE3252131Q152H3E03170G0X902421hQ051802051XA051X2051802051G0X
  Q051Y44U2R5YN171q10T2YQ6JCK238JDE04EXL126903AA2B5B5C4B5YQ661X3024Y79X035143307622XB16AXD3R5C2XQ1
  32XP02820377CB5B5FYLXH95292S8C2X1335XP021402CXH734G2XT6XC1CA2C2650704124c1XVeN171X717190202020X0
  1XM0G0F170K140AGP7XGG31S0E2X2XUaD3qOOCKXuL1X10gP234XE02421XP63EO8808080808080808X0YVX1R0YQBcNPD4
  XA5H0YN3Z64XC0YV0YLBXG0ypE2XO8gTJXG329X11YH177cC430206NH04050Q163B5XP7Y59DNE0X77QA2BV5XH0333130E
  0C380Q0XA5313A409021B1X10XK0223161202NI19A7171788080XT3ZM03052B5gz5BO3XIee3hF1ZBX58B6420P0602030
  30ZUFjU1XN62VHFBLX40K05360a83aU1X0271717142808C31D0R0K030G1FX1ZS443XE2YP0E22XEXEa2U2XIFS3X58V4X7
  9V0X63FX9aV1B5X53X53X97XLAD0G08030C0G0803Y2fO8N99N70XB0AY47120XD03221O0Y97AXFK034X22S42XVXP3L1XG
  E5040U9A6A6Y1VX65D8XN2U1S4R65B8YFYAXMXKCXK6XBBBf5X00XB2213YDX97NAALJ35X5TJO820XNE83V0312BXI33130
  5DQ6B8X5428J7X404AXL8209330H0LAJ0T2337Y1802050G0C5XG04CB7309131N080306220205131322B8aRXP73220M02
  04TXH0352030212157Bb5XG0355121SX3XK730215AB5EIXC0203735BXLS43328ObOXG8212Z3YKB91219030P060355048
  BY591XB7505Q29X9533982532XFC21ACYAe6A0X7D2079U2X1O26212YA8030X7K28B57030X63302026BfLK15bM2EXJCyS
  Z5ZG06Ac5YoBZ4CXXGZ-Go8ejOnQ6X00B3YI0B5V629XH6G9B080M4KrFYSZ4YC4XPAEXV5B3Db_P7XcNX9Aet6508030f4X
  C4G57iDYe3ZC4E2A6B1212arFZLXRdN9X81XT44L36V3XUKY322aPLBYO8Qa6YM0Y8031213150D02080Y20519080T05060
  2280gL1f51nJXM5XH90F08XZJX0l0XE981B33fVVHXD3B42XcV805030G0c61AXFY5623B33uGY5YBXUc150S0302120B050
  202523202020403021202020202030215080505020B0I44060IXJ3eDXD3Z5BG1G0G0X69bFXNUCXD3A63D7aP-P4H2E2ZL
  BYQ6D32ED3XP7B5X97V13YDgLBF1626288U2C479B59788aK0XOX4BXW5Xft1VaXQ6cV1bq3DdfIZWUmVXl1awCxxbK"

/-- Whether a character lies in one of the packed ranges; the first number is the end of the range
before. -/
def inRanges (c : Nat) : Nat → List Nat → Bool
  | last, distance :: length :: rest =>
    if c < last + distance then false
    else if c ≤ last + distance + length then true
    else inRanges c (last + distance + length) rest
  | _, _ => false

/-- Whether a character can be seen. -/
def isPrintable (c : Char) : Bool :=
  if 0x20 ≤ c.toNat && c.toNat < 0x7F then true
  else !inRanges c.toNat 0 (Packed.numbers unseenRanges).toList

end ScriptCensus
