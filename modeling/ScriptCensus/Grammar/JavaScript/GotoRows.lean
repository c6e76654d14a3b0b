/-!
# The JavaScript goto table

The rows of the goto table, packed.
-/

namespace ScriptCensus.Grammar.JavaScript

/-- The rows of the goto table, as packed numbers. -/
def gotoRows : String :=
  "qE0Y1a5XnG1h85h81XaK1h87D1h81h91h92h82h81h81h81h82h81h81h81h81h81h81h81h81h81h81h86kR1sK1oL1p51p
  31XnH3p31XnH1p52_U4p53p31h92p31h91p31h91p31p31oM1p51kR1kR1p51_61p52XnH2p51p51p51p51Xg21p31p32p31
  p32-25XnI9D1XYPYAa6h85h81XaK1h87F1h81h91h92h82h81h81h81h82h81h81h81h81h81h81h81h81h81h81h86kR1sK
  1oL1p51p31XnL2Xd11p31XnL1p52_U4p53p31h92p31h91p31h91p31p31oM1p51kR1kR1p51_61p52XnL1Xd21p51p51p51
  p51Xg21sL1p32p31p32-25XnI3Xd11Xd21Xd21Xd11Xd31Xd31F1xQ5Xd41Xd5YAa6h85h81XaK1h87H1h81h91h92h82h81
  h81h81h82h81h81h81h81h81h81h81h81h81h81h86kR1sK1oL1p51p31XnL2Xd11p31XnL1p52_U4p53p31h92p31h91p31
  h91p31p31oM1p51kR1kR1p51_61p52XnL1Xd21p51p51p51p51Xg21sL1p32p31p32-25XnI3Xd11Xd21Xd21Xd11Xd31Xd3
  1H1xQ5Xd41Xd5YAa6h85h81XaK1h87J1h81h91h92h82h81h81h81h82h81h81h81h81h81h81h81h81h81h81h86kR1sK1o
  L1p51p31XnL2Xd11p31XnL1p52_U4p53p31h92p31h91p31h91p31p31oM1p51kR1kR1p51_61p52XnL1XeP1p51p51p51p5
  1Xg21sL1p32p31p32-25XnI3Xd11XeP1XeP1Xd11Xd31Xd31J1xQ5XeQ1Xd5Y0a6h85h81XaK1h8771h81h91h92h82h81h8
  1h81h82h81h81h81h81h81h81h81h81h81h81h86kR1sK1oL1p51p31XnH3p31XnH1p52_U4p53p31h92p31h91p31h91p31
  p31oM1p51kR1kR1p51_61p52XnH2p51p51p51p51Xg21p31p32p31p32-25XnI971XYPY0a6h85h81XaK1h8791h81h91h92
  h82h81h81h81h82h81h81h81h81h81h81h81h81h81h81h86kR1sK1oL1p51p31XnH3p31XnH1p52_U4p53p31h92p31h91p
  31h91p31p31oM1p51kR1kR1p51_61p52XnH2p51p51p51p51Xg21p31p32p31p32-25XnI991XYPY0a6h85h81XaK1h87B1h
  81h91h92h82h81h81h81h82h81h81h81h81h81h81h81h81h81h81h86kR1sK1oL1p51p31XnH3p31XnH1p52_U4p53p31h9
  2p31h91p31h91p31p31oM1p51kR1kR1p51_61p52XnH2p51p51p51p51Xg21p31p32p31p32-25XnI9B1XYPY0a6h85h81Xa
  K1h87E1h81h91h92h82h81h81h81h82h81h81h81h81h81h81h81h81h81h81h86kR1sK1oL1p51p31XnH3p31XnH1p52_U4
  p53p31h92p31h91p31h91p31p31oM1p51kR1kR1p51_61p52XnH2p51p51p51p51Xg21p31p32p31p32-25XnI9E1XYPY0a6
  h85h81XaK1h87F1h81h91h92h82h81h81h81h82h81h81h81h81h81h81h81h81h81h81h86kR1sK1oL1p51p31XnH3p31Xn
  H1p52_U4p53p31h92p31h91p31h91p31p31oM1p51kR1kR1p51_61p52XnH2p51p51p51p51Xg21p31p32p31p32-25XnI9F
  1XYPY0a6h85h81XaK1h87H1h81h91h92h82h81h81h81h82h81h81h81h81h81h81h81h81h81h81h86kR1sK1oL1p51p31X
  nH3p31XnH1p52_U4p53p31h92p31h91p31h91p31p31oM1p51kR1kR1p51_61p52XnH2p51p51p51p51Xg21p31p32p31p32
  -25XnI9H1XYPY0a6h85h81XaK1h87J1h81h91h92h82h81h81h81h82h81h81h81h81h81h81h81h81h81h81h86kR1sK1oL
  1p51p31XnH3p31XnH1p52_U4p53p31h92p31h91p31h91p31p31oM1p51kR1kR1p51_61p52XnH2p51p51p51p51Xg21p31p
  32p31p32-25XnI9J1XYPY0a6h85h81XaK1h87L1h81h91h92h82h81h81h81h82h81h81h81h81h81h81h81h81h81h81h86
  kR1sK1oL1p51p31XnH3p31XnH1p52_U4p53p31h92p31h91p31h91p31p31oM1p51kR1kR1p51_61p52XnH2p51p51p51p51
  Xg21p31p32p31p32-25XnI9L1XYPY0a6h85h81XaK1h87O1h81h91h92h82h81h81h81h82h81h81h81h81h81h81h81h81h
  81h81h86kR1sK1oL1p51p31XnH3p31XnH1p52_U4p53p31h92p31h91p31h91p31p31oM1p51kR1kR1p51_61p52XnH2p51p
  51p51p51Xg21p31p32p31p32-25XnI9O1XYPXVa6h85h81XaK1h87XnQ1h81h91h92h82h81h81h81h82h81h81h81h81h81
  h81h81h81h81h81h86kR1sK1oL1p51p31XnH3p31XnH1p52_U4p53p31h92p31h91p31h91p31p31oM1p51kR1kR1p51_61p
  52XnH2p51p51p51p51Xg21p31p32p31p32-25XnIAXaGXVa6h85h81XaK1h87hH1h81h91h92h82h81h81h81h82h81h81h8
  1h81h81h81h81h81h81h81h86kR1sK1oL1p51p31XnH3p31XnH1p52_U4p53p31h92p31h91p31h91p31p31oM1p51kR1kR1
  p51_61p52XnH2p51p51p51p51Xg21p31p32p31p32-25XnIAXYPXVa6h85h81XaK1h87hK1h81h91h92h82h81h81h81h82h
  81h81h81h81h81h81h81h81h81h81h86kR1sK1oL1p51p31XnH3p31XnH1p52_U4p53p31h92p31h91p31h91p31p31oM1p5
  1kR1kR1p51_61p52XnH2p51p51p51p51Xg21p31p32p31p32-25XnIAXYPXVa6h85h81XaK1h87gH1h81h91h92h82h81h81
  h81h82h81h81h81h81h81h81h81h81h81h81h86kR1sK1oL1p51p31XnH3p31XnH1p52_U4p53p31h92p31h91p31h91p31p
  31oM1p51kR1kR1p51_61p52XnH2p51p51p51p51Xg21p31p32p31p32-25XnIAXYPXVa6h85h81XaK1h87hP1h81h91h92h8
  2h81h81h81h82h81h81h81h81h81h81h81h81h81h81h86kR1sK1oL1p51p31XnH3p31XnH1p52_U4p53p31h92p31h91p31
  h91p31p31oM1p51kR1kR1p51_61p52XnH2p51p51p51p51Xg21p31p32p31p32-25XnIAXYPXVa6h85h81XaK1h87hQ1h81h
  91h92h82h81h81h81h82h81h81h81h81h81h81h81h81h81h81h86kR1sK1oL1p51p31XnH3p31XnH1p52_U4p53p31h92p3
  1h91p31h91p31p31oM1p51kR1kR1p51_61p52XnH2p51p51p51p51Xg21p31p32p31p32-25XnIAXYPXVa6h85h81XaK1h87
  iB1h81h91h92h82h81h81h81h82h81h81h81h81h81h81h81h81h81h81h86kR1sK1oL1p51p31XnH3p31XnH1p52_U4p53p
  31h92p31h91p31h91p31p31oM1p51kR1kR1p51_61p52XnH2p51p51p51p51Xg21p31p32p31p32-25XnIAXYPXVa6h85h81
  XaK1h87iI1h81h91h92h82h81h81h81h82h81h81h81h81h81h81h81h81h81h81h86kR1sK1oL1p51p31XnH3p31XnH1p52
  _U4p53p31h92p31h91p31h91p31p31oM1p51kR1kR1p51_61p52XnH2p51p51p51p51Xg21p31p32p31p32-25XnIAXYPXVa
  6h85h81XaK1h87iQ1h81h91h92h82h81h81h81h82h81h81h81h81h81h81h81h81h81h81h86kR1sK1oL1p51p31XnH3p31
  XnH1p52_U4p53p31h92p31h91p31h91p31p31oM1p51kR1kR1p51_61p52XnH2p51p51p51p51Xg21p31p32p31p32-25XnI
  AXYPXVa6h85h81XaK1h87iU1h81h91h92h82h81h81h81h82h81h81h81h81h81h81h81h81h81h81h86kR1sK1oL1p51p31
  XnH3p31XnH1p52_U4p53p31h92p31h91p31h91p31p31oM1p51kR1kR1p51_61p52XnH2p51p51p51p51Xg21p31p32p31p3
  2-25XnIAXYPXVa6h85h81XaK1h87iV1h81h91h92h82h81h81h81h82h81h81h81h81h81h81h81h81h81h81h86kR1sK1oL
  1p51p31XnH3p31XnH1p52_U4p53p31h92p31h91p31h91p31p31oM1p51kR1kR1p51_61p52XnH2p51p51p51p51Xg21p31p
  32p31p32-25XnIAXYPXVa6h85h81XaK1h87j01h81h91h92h82h81h81h81h82h81h81h81h81h81h81h81h81h81h81h86k
  R1sK1oL1p51p31XnH3p31XnH1p52_U4p53p31h92p31h91p31h91p31p31oM1p51kR1kR1p51_61p52XnH2p51p51p51p51X
  g21p31p32p31p32-25XnIAXYPXVa6h85h81XaK1h87j21h81h91h92h82h81h81h81h82h81h81h81h81h81h81h81h81h81
  h81h86kR1sK1oL1p51p31XnH3p31XnH1p52_U4p53p31h92p31h91p31h91p31p31oM1p51kR1kR1p51_61p52XnH2p51p51
  p51p51Xg21p31p32p31p32-25XnIAXYPXVa6h85h81XaK1h87j31h81h91h92h82h81h81h81h82h81h81h81h81h81h81h8
  1h81h81h81h86kR1sK1oL1p51p31XnH3p31XnH1p52_U4p53p31h92p31h91p31h91p31p31oM1p51kR1kR1p51_61p52XnH
  2p51p51p51p51Xg21p31p32p31p32-25XnIAXYPXVa6h85h81XaK1h87j41h81h91h92h82h81h81h81h82h81h81h81h81h
  81h81h81h81h81h81h86kR1sK1oL1p51p31XnH3p31XnH1p52_U4p53p31h92p31h91p31h91p31p31oM1p51kR1kR1p51_6
  1p52XnH2p51p51p51p51Xg21p31p32p31p32-25XnIAXYPXVa6h85h81XaK1h87j51h81h91h92h82h81h81h81h82h81h81
  h81h81h81h81h81h81h81h81h86kR1sK1oL1p51p31XnH3p31XnH1p52_U4p53p31h92p31h91p31h91p31p31oM1p51kR1k
  R1p51_61p52XnH2p51p51p51p51Xg21p31p32p31p32-25XnIAXYPXVa6h85h81XaK1h87hH1h81h91h92h82h81h81h81h8
  2h81h81h81h81h81h81h81h81h81h81h86kR1sK1oL1p51p31XnH3p31XnH1p52_U4p53p31h92p31h91p31h91p31p31oM1
  p51kR1kR1p51_61p52XnH2p51p51p51p51Xg21p31p32p31p32-25XnIAXaGXVa6h85h81XaK1h87hK1h81h91h92h82h81h
  81h81h82h81h81h81h81h81h81h81h81h81h81h86kR1sK1oL1p51p31XnH3p31XnH1p52_U4p53p31h92p31h91p31h91p3
  1p31oM1p51kR1kR1p51_61p52XnH2p51p51p51p51Xg21p31p32p31p32-25XnIAXaGXVa6h85h81XaK1h87XfM1h81h91h9
  2h82h81h81h81h82h81h81h81h81h81h81h81h81h81h81h86kR1sK1oL1p51p31XnH3p31XnH1p52_U4p53p31h92p31h91
  p31h91p31p31oM1p51kR1kR1p51_61p52XnH2p51p51p51p51Xg21p31p32p31p32-25XnIAXaGXVa6h85h81XaK1h87hP1h
  81h91h92h82h81h81h81h82h81h81h81h81h81h81h81h81h81h81h86kR1sK1oL1p51p31XnH3p31XnH1p52_U4p53p31h9
  2p31h91p31h91p31p31oM1p51kR1kR1p51_61p52XnH2p51p51p51p51Xg21p31p32p31p32-25XnIAXaGXVa6h85h81XaK1
  h87hQ1h81h91h92h82h81h81h81h82h81h81h81h81h81h81h81h81h81h81h86kR1sK1oL1p51p31XnH3p31XnH1p52_U4p
  53p31h92p31h91p31h91p31p31oM1p51kR1kR1p51_61p52XnH2p51p51p51p51Xg21p31p32p31p32-25XnIAXaGXVa6h85
  h81XaK1h87iB1h81h91h92h82h81h81h81h82h81h81h81h81h81h81h81h81h81h81h86kR1sK1oL1p51p31XnH3p31XnH1
  p52_U4p53p31h92p31h91p31h91p31p31oM1p51kR1kR1p51_61p52XnH2p51p51p51p51Xg21p31p32p31p32-25XnIAXaG
  XVa6h85h81XaK1h87iI1h81h91h92h82h81h81h81h82h81h81h81h81h81h81h81h81h81h81h86kR1sK1oL1p51p31XnH3
  p31XnH1p52_U4p53p31h92p31h91p31h91p31p31oM1p51kR1kR1p51_61p52XnH2p51p51p51p51Xg21p31p32p31p32-25
  XnIAXaGXVa6h85h81XaK1h87iQ1h81h91h92h82h81h81h81h82h81h81h81h81h81h81h81h81h81h81h86kR1sK1oL1p51
  p31XnH3p31XnH1p52_U4p53p31h92p31h91p31h91p31p31oM1p51kR1kR1p51_61p52XnH2p51p51p51p51Xg21p31p32p3
  1p32-25XnIAXaGXVa6h85h81XaK1h87iU1h81h91h92h82h81h81h81h82h81h81h81h81h81h81h81h81h81h81h86kR1sK
  1oL1p51p31XnH3p31XnH1p52_U4p53p31h92p31h91p31h91p31p31oM1p51kR1kR1p51_61p52XnH2p51p51p51p51Xg21p
  31p32p31p32-25XnIAXaGXVa6h85h81XaK1h87iV1h81h91h92h82h81h81h81h82h81h81h81h81h81h81h81h81h81h81h
  86kR1sK1oL1p51p31XnH3p31XnH1p52_U4p53p31h92p31h91p31h91p31p31oM1p51kR1kR1p51_61p52XnH2p51p51p51p
  51Xg21p31p32p31p32-25XnIAXaGXVa6h85h81XaK1h87j01h81h91h92h82h81h81h81h82h81h81h81h81h81h81h81h81
  h81h81h86kR1sK1oL1p51p31XnH3p31XnH1p52_U4p53p31h92p31h91p31h91p31p31oM1p51kR1kR1p51_61p52XnH2p51
  p51p51p51Xg21p31p32p31p32-25XnIAXaGXVa6h85h81XaK1h87j21h81h91h92h82h81h81h81h82h81h81h81h81h81h8
  1h81h81h81h81h86kR1sK1oL1p51p31XnH3p31XnH1p52_U4p53p31h92p31h91p31h91p31p31oM1p51kR1kR1p51_61p52
  XnH2p51p51p51p51Xg21p31p32p31p32-25XnIAXaGXVa6h85h81XaK1h87j31h81h91h92h82h81h81h81h82h81h81h81h
  81h81h81h81h81h81h81h86kR1sK1oL1p51p31XnH3p31XnH1p52_U4p53p31h92p31h91p31h91p31p31oM1p51kR1kR1p5
  1_61p52XnH2p51p51p51p51Xg21p31p32p31p32-25XnIAXaGXVa6h85h81XaK1h87j41h81h91h92h82h81h81h81h82h81
  h81h81h81h81h81h81h81h81h81h86kR1sK1oL1p51p31XnH3p31XnH1p52_U4p53p31h92p31h91p31h91p31p31oM1p51k
  R1kR1p51_61p52XnH2p51p51p51p51Xg21p31p32p31p32-25XnIAXaGXVa6h85h81XaK1h87j51h81h91h92h82h81h81h8
  1h82h81h81h81h81h81h81h81h81h81h81h86kR1sK1oL1p51p31XnH3p31XnH1p52_U4p53p31h92p31h91p31h91p31p31
  oM1p51kR1kR1p51_61p52XnH2p51p51p51p51Xg21p31p32p31p32-25XnIAXaGX4aCXc5X4jN1nQ1lM1m81m71XpO3m71Xp
  O1m82XW14m83m73m72m72m71m71lN1m81jN1jN1m81_G1m82XpO2m81m81m81m82m71m72m71m72-25XpBAXaSX4aCXaKX4k
  R1p71oL1p51p31XnH3p31XnH1p52_U4p53p33p32p32p31p31oM1p51kR1kR1p51_61p52XnH2p51p51p51p52p31p32p31p
  32-25XnIAXcMX4aCXaKX4l31sJ1oL1p51p31XqB3p31XqB1p52_U4p53p33p32p32p31p31oM1p51l31l31p51_I1p52XqB2
  p51p51p51p52p31p32p31p32-25XqCAXcMX4aCXc5X4jH1v51lM1m81m71XpA3m71XpA1m82XW14m83m73m72m72m71m71lN
  1m81jH1jH1m81_H1m82XpA2m81m81m81m82m71m72m71m72-25XpPAXaSX4aCXc5X4lI1wE1lM1m81m71XqO3m71XqO1m82X
  W14m83m73m72m72m71m71lN1m81lI1lI1m81_S1m82XqO2m81m81m81m82m71m72m71m72-25XqJAXaSXAaCXc5X4jN1t51l
  M1m81m71XYS1Xd82m71XYS1m82XW14m83m73m72m72m71m71lN1m81kS1kS1m81_G1m82XYS1Xd91m81m81m81m82m71m72m
  71m72-25XpB2XaT1XYT7XaS7XdA1XdBXAaCXc5X4jN1t61lM1m81m71XYS1Xd82m71XYS1m82XW14m83m73m72m72m71m71l
  N1m81kS1kS1m81_G1m82XYS1Xd91m81m81m81m82m71m72m71m72-25XpB2XaT1XYT7XaS7XdA1XdBXAaCXc5X4jN1u21lM1
  m81m71XYS1Xd82m71XYS1m82XW14m83m73m72m72m71m71lN1m81kS1kS1m81_G1m82XYS1XeU1m81m81m81m82m71m72m71
  m72-25XpB2XaT1XYT7XaS7XeV1XdBXAaBhG1XaKAh91h9PkR1vA1oL1p51p31XnH3p31XnH1p52_U4p53p31h92p31h91p31
  h91p31p31oM1p51kR1kR1p51_61p52XnH2p51p51p51p52p31p32p31p32-25XnIAXb3XAaBiF1XaKAh91h9PkR1vC1oL1p5
  1p31XnH3p31XnH1p52_U4p53p31h92p31h91p31h91p31p31oM1p51kR1kR1p51_61p52XnH2p51p51p51p52p31p32p31p3
  2-25XnIAXb3XAaBhG1XaKAh91h9PkR1vA1oL1p51p31XnH3p31XnH1p52_U4p53p31h92p31h91p31h91p31p31oM1p51kR1
  kR1p51_61p52XnH2p51p51p51p52p31p32p31p32-25XnIAXcNXAaBiF1XaKAh91h9PkR1vC1oL1p51p31XnH3p31XnH1p52
  _U4p53p31h92p31h91p31h91p31p31oM1p51kR1kR1p51_61p52XnH2p51p51p51p52p31p32p31p32-25XnIAXcNX8aCXc5
  X4jH1wQ1lM1m81m71XaB1XeT2m71XaB1m82XW14m83m73m72m72m71m71lN1m81l11l11m81_H1m82XaB2m81m81m81m82m7
  1m72m71m72-25XpP2Xc61XYT7XaS8Xf0X8aCXc5AZD1ZDIZD7l51t71lM1m81m71XdR3m71XdR1m82XW14m83m73m72m72m7
  1m71lN1m81l51l51m81_G1m82XdR2m81m81m81m81XoA1m71m72m71m72-25XpBAXaSX8aCXc5X4jN1t81lM1m81m71XYS1X
  h32m71XYS1m82XW14m83m73m72m72m71m71lN1m81kS1kS1m81_G1m82XYS1XdV1m81m81m81m82m71m72m71m72-25XpB2X
  e01XYT7XaSX8aCXc5X4jN1wH1lM1m81m71XYS1Xd82m71XYS1m82XW14m83m73m72m72m71m71lN1m81lA1lA1m81_G1m82X
  YS2m81m81m81m82m71m72m71m72-25XpB2XaT1XYT7XaS8XdBX8aCXc5X4jH1wQ1lM1m81m71XaB1Xd82m71XaB1m82XW14m
  83m73m72m72m71m71lN1m81l11l11m81_H1m82XaB2m81m81m81m82m71m72m71m72-25XpP2XaT1XYT7XaS8XdBX8aCXc5A
  ZF1ZFIZF7l51v81lM1m81m71XdR3m71XdR1m82XW14m83m73m72m72m71m71lN1m81l51l51m81_G1m82XdR2m81m81m81m8
  1XqN1m71m72m71m72-25XpBAXaSX8aCXc5X4jN1t41lM1m81m71XYS1Xd72m71XYS1m82XW14m83m73m72m72m71m71lN1m8
  1kS1kS1m81_G1m82XYS2m81m81m81m81XnP1m71m72m71m72-25XpB2XaR1XYT7XaSX7aCXc5X4jH1wQ1lM1m81m71XaB1Xh
  32m71XaB1m82XW14m83m73m72m72m71m71lN1m81l11l11m81_H1m82XaB2m81m81m81m82m71m72m71m72-25XpP2Xe01XY
  T7XaSX8aCXc5X4jN1uU1lM1m81m71XYS1Xd72m71XYS1m82XW14m83m73m72m72m71m71lN1m81kS1kS1m81_G1m82XYS2m8
  1m81m81m81XpQ1m71m72m71m72-25XpB2XaR1XYT7XaSX7aCXc5X4jH1wQ1lM1m81m71XaB1Xd72m71XaB1m82XW14m83m73
  m72m72m71m71lN1m81l11l11m81_H1m82XaB2m81m81m81m82m71m72m71m72-25XpP2XaR1XYT7XaSX6aCXc5X4jN1tA1lM
  1m81m71XpO3m71XpO1m82XW14m83m73m72m72m71m71lN1m81jN1jN1m81_G1m82XpO1Xe51m81m81m81m82m71m72m71m72
  -25XpBAXaS7Xe6X7aCXc5X4jH1wQ1lM1m81m71XaB1Xi42m71XaB1m82XW14m83m73m72m72m71m71lN1m81l11l11m81_H1
  m82XaB2m81m81m81m82m71m72m71m72-25XpP2XeG1XYT7XaSX5aCXc5X4jN1t81lM1m81m71XpO3m71XpO1m82XW14m83m7
  3m72m72m71m71lN1m81jN1jN1m81_G1m82XpO1XdV1m81m81m81m82m71m72m71m72-25XpBAXaSX6aCXc5X4jN1u31lM1m8
  1m71XpO3m71XpO1m82XW14m83m73m72m72m71m71lN1m81jN1jN1m81_G1m82XpO1Xf81m81m81m81m82m71m72m71m72-25
  XpBAXaS7Xf9X6aCXc5X4jN1uV1lM1m81m71XpO3m71XpO1m82XW14m83m73m72m72m71m71lN1m81jN1jN1m81_G1m82XpO1
  XfG1m81m81m81m82m71m72m71m72-25XpBAXaS7XfHX6aCXc5X4jN1tD1lM1m81m71XpO3m71XpO1m82XW14m83m73m72m72
  m71m71lN1m81jN1jN1m81_G1m82XpO1XoF1m81m81m81m81XoF1m71m72m71m72-25XpBAXaSX7aCXc5X4jN1vB1lM1m81m7
  1XYS1XhL2m71XYS1m82XW14m83m73m72m72m71m71lN1m81kS1kS1m81_G1m82XYS2m81m81m81m82m71m72m71m72-25XpB
  2XeC1XYT7XaSX7aCXc5X4jH1wQ1lM1m81m71XaB1XhL2m71XaB1m82XW14m83m73m72m72m71m71lN1m81l11l11m81_H1m8
  2XaB2m81m81m81m82m71m72m71m72-25XpP2XeC1XYT7XaSX6aCXc5X4jN1u51lM1m81m71XpO3m71XpO1m82XW14m83m73m
  72m72m71m71lN1m81jN1jN1m81_G1m82XpO1XpK1m81m81m81m81XpK1m71m72m71m72-25XpBAXaSX5aCXaKX4kR1sM1oL1
  p51p31XnH3p31XnH1p52_U4p53p33p32p32p31p31oM1p51kR1kR1p51_61p52XnH2p51p51p51p51XgC1p31p32p31p32-2
  5XnIAXcMX6aCXc5TZI7jN1tF1lM1m81m71XpO3m71XpO1m82XW14m83m73m72m72m71m71lN1m81jN1jN1m81_G1m82XpO2m
  81m81m81m81XoO1m71m72m71m72-25XpBAXaSX6aCXc5TZK7jN1tL1lM1m81m71XpO3m71XpO1m82XW14m83m73m72m72m71
  m71lN1m81jN1jN1m81_G1m82XpO2m81m81m81m81XoV1m71m72m71m72-25XpBAXaSX6aCXc5TZM7jN1v61lM1m81m71XpO3
  m71XpO1m82XW14m83m73m72m72m71m71lN1m81jN1jN1m81_G1m82XpO2m81m81m81m81XqG1m71m72m71m72-25XpBAXaSX
  6aCXc5TZO7jN1v71lM1m81m71XpO3m71XpO1m82XW14m83m73m72m72m71m71lN1m81jN1jN1m81_G1m82XpO2m81m81m81m
  81XqH1m71m72m71m72-25XpBAXaSX4aCXc5X4lH1wQ1lM1m81m71XfN3m71XfN1m82XW14m83m73m72m72m71m71lN1m81lH
  1lH1m81_H1m82XfN2m81m81m81m82m71m72m71m72-25XpPAXaSX5aCXc5X4jN1tK1lM1m81m71XpO3m71XpO1m82XW14m83
  m73m72m72m71m71lN1m81jN1jN1m81_G1m82XpO2m81m81m81m81XoU1m71m72m71m72-25XpBAXaSX5aCXc5X4jN1tN1lM1
  m81m71XpO3m71XpO1m82XW14m83m73m72m72m71m71lN1m81jN1jN1m81_G1m82XpO2m81m81m81m81Xp31m71m72m71m72-
  25XpBAXaSX5aCXc5X4jN1tO1lM1m81m71XpO3m71XpO1m82XW14m83m73m72m72m71m71lN1m81jN1jN1m81_G1m82XpO2m8
  1m81m81m81Xp41m71m72m71m72-25XpBAXaSX5aCXc5X4jN1tS1lM1m81m71XpO3m71XpO1m82XW14m83m73m72m72m71m71
  lN1m81jN1jN1m81_G1m82XpO2m81m81m81m81Xp81m71m72m71m72-25XpBAXaSX5aCXc5X4jN1v11lM1m81m71XpO3m71Xp
  O1m82XW14m83m73m72m72m71m71lN1m81jN1jN1m81_G1m82XpO2m81m81m81m81Xq41m71m72m71m72-25XpBAXaSX5aCXc
  5X4jN1v21lM1m81m71XpO3m71XpO1m82XW14m83m73m72m72m71m71lN1m81jN1jN1m81_G1m82XpO2m81m81m81m81Xq51m
  71m72m71m72-25XpBAXaSX5aCXc5X4jN1v31lM1m81m71XpO3m71XpO1m82XW14m83m73m72m72m71m71lN1m81jN1jN1m81
  _G1m82XpO2m81m81m81m81Xq61m71m72m71m72-25XpBAXaSX5aCXc5X4jN1v41lM1m81m71XpO3m71XpO1m82XW14m83m73
  m72m72m71m71lN1m81jN1jN1m81_G1m82XpO2m81m81m81m81Xq71m71m72m71m72-25XpBAXaSX5aCXaKX4kR1sN1oL1p51
  p31XnH3p31XnH1p52_U4p53p33p32p32p31p31oM1p51kR1kR1p51_61p52XnH2p51p51p51p51XgD1p31p32p31p32-25Xn
  IAXcMX4aCXaKX4kJ1wP1nN1m81p31XpA3p31XpA1m82XW14m83p33p32p32p31p31nO1m81kJ1kJ1m81_H1m82XpA2m81m81
  m81m82p31p32p31p32-25XnIAXcMX5aCXaKDpFNkR1pG1oL1p51p31XnH3p31XnH1p52_U4p53p33p32p32p31p31oM1p51k
  R1kR1p51_61p52XnH2p51p51p51p52p31p32p31p32-25XnIAXcMCa7Xg41XaL3hABh91h9XDh93h92h9O-2FXaM5XdI1XdJ
  X5aCXc5X4jN1u11lM1m81m71XpO3m71XpO1m82XW14m83m73m72m72m71m71lN1m81jN1jN1m81_G1m82XpO2m81m81m81m8
  1XpD1m71m72m71m72-25XpBAXaSX5aCXc5X4jN1t91lM1m81m71XpO3m71XpO1m82XW14m83m73m72m72m71m71lN1m81jN1
  jN1m81_G1m82XpO2m81m81m81m81XoC1m71m72m71m72-25XpBAXaSX5aCXaKDpSNkR1pT1oL1p51p31XnH3p31XnH1p52_U
  4p53p33p32p32p31p31oM1p51kR1kR1p51_61p52XnH2p51p51p51p52p31p32p31p32-25XnIAXcMX5aCXc5X4jN1tC1lM1
  m81m71XpO3m71XpO1m82XW14m83m73m72m72m71m71lN1m81jN1jN1m81_G1m82XpO2m81m81m81m81XoE1m71m72m71m72-
  25XpBAXaSX5aCXaKDqFNkR1qG1oL1p51p31XnH3p31XnH1p52_U4p53p33p32p32p31p31oM1p51kR1kR1p51_61p52XnH2p
  51p51p51p52p31p32p31p32-25XnIAXcMX5aCXaKDqMNkR1qN1oL1p51p31XnH3p31XnH1p52_U4p53p33p32p32p31p31oM
  1p51kR1kR1p51_61p52XnH2p51p51p51p52p31p32p31p32-25XnIAXcMX5aCXaKDqPNkR1qQ1oL1p51p31XnH3p31XnH1p5
  2_U4p53p33p32p32p31p31oM1p51kR1kR1p51_61p52XnH2p51p51p51p52p31p32p31p32-25XnIAXcMX5aCXaKDqRNkR1q
  S1oL1p51p31XnH3p31XnH1p52_U4p53p33p32p32p31p31oM1p51kR1kR1p51_61p52XnH2p51p51p51p52p31p32p31p32-
  25XnIAXcMX5aCXc5X4jN1tG1lM1m81m71XpO3m71XpO1m82XW14m83m73m72m72m71m71lN1m81jN1jN1m81_G1m82XpO2m8
  1m81m81m81XoP1m71m72m71m72-25XpBAXaSX5aCXc5X4jN1tH1lM1m81m71XpO3m71XpO1m82XW14m83m73m72m72m71m71
  lN1m81jN1jN1m81_G1m82XpO2m81m81m81m81XoR1m71m72m71m72-25XpBAXaSX5aCXc5X4jN1tI1lM1m81m71XpO3m71Xp
  O1m82XW14m83m73m72m72m71m71lN1m81jN1jN1m81_G1m82XpO2m81m81m81m81XoS1m71m72m71m72-25XpBAXaSX5aCXc
  5X4jN1tJ1lM1m81m71XpO3m71XpO1m82XW14m83m73m72m72m71m71lN1m81jN1jN1m81_G1m82XpO2m81m81m81m81XoT1m
  71m72m71m72-25XpBAXaSX5aCXc5X4jN1tM1lM1m81m71XpO3m71XpO1m82XW14m83m73m72m72m71m71lN1m81jN1jN1m81
  _G1m82XpO2m81m81m81m81Xp21m71m72m71m72-25XpBAXaSX5aCXc5X4jN1tP1lM1m81m71XpO3m71XpO1m82XW14m83m73
  m72m72m71m71lN1m81jN1jN1m81_G1m82XpO2m81m81m81m81Xp51m71m72m71m72-25XpBAXaSX5aCXc5X4jN1tQ1lM1m81
  m71XpO3m71XpO1m82XW14m83m73m72m72m71m71lN1m81jN1jN1m81_G1m82XpO2m81m81m81m81Xp61m71m72m71m72-25X
  pBAXaSX5aCXc5X4jN1tR1lM1m81m71XpO3m71XpO1m82XW14m83m73m72m72m71m71lN1m81jN1jN1m81_G1m82XpO2m81m8
  1m81m81Xp71m71m72m71m72-25XpBAXaSX5aCXc5DmGNjN1nS1lM1m81m71XpO3m71XpO1m82XW14m83m73m72m72m71m71l
  N1m81jN1jN1m81_G1m82XpO2m81m81m81m82m71m72m71m72-25XpBAXaSX5aCXc5DmSNjN1nV1lM1m81m71XpO3m71XpO1m
  82XW14m83m73m72m72m71m71lN1m81jN1jN1m81_G1m82XpO2m81m81m81m82m71m72m71m72-25XpBAXaSX5aCXc5Dn1NjN
  1oD1lM1m81m71XpO3m71XpO1m82XW14m83m73m72m72m71m71lN1m81jN1jN1m81_G1m82XpO2m81m81m81m82m71m72m71m
  72-25XpBAXaSX5aCXc5Dn8NjN1oE1lM1m81m71XpO3m71XpO1m82XW14m83m73m72m72m71m71lN1m81jN1jN1m81_G1m82X
  pO2m81m81m81m82m71m72m71m72-25XpBAXaSX5aCXc5DnANjN1oF1lM1m81m71XpO3m71XpO1m82XW14m83m73m72m72m71
  m71lN1m81jN1jN1m81_G1m82XpO2m81m81m81m82m71m72m71m72-25XpBAXaSX5aCXc5DnBNjN1oG1lM1m81m71XpO3m71X
  pO1m82XW14m83m73m72m72m71m71lN1m81jN1jN1m81_G1m82XpO2m81m81m81m82m71m72m71m72-25XpBAXaSX4aCXc5X4
  jH1wQ1lJ1m81m71XpA3m71XpA1m82XW14m83m73m72m72m71m71lK1m81jH1jH1m81_H1m82XpA2m81m81m81m82m71m72m7
  1m72-25XpBAXaSCa7Xg41XaL3hABh91h9XDh93h92h9O-2FXaM5Xf21XdJX5aCXc5DmGNjH1u81lM1m81m71XpA3m71XpA1m
  82XW14m83m73m72m72m71m71lN1m81jH1jH1m81_H1m82XpA2m81m81m81m82m71m72m71m72-25XpPAXaSX5aCXc5DmSNjH
  1uB1lM1m81m71XpA3m71XpA1m82XW14m83m73m72m72m71m71lN1m81jH1jH1m81_H1m82XpA2m81m81m81m82m71m72m71m
  72-25XpPAXaSX5aCXc5Dn1NjH1uP1lM1m81m71XpA3m71XpA1m82XW14m83m73m72m72m71m71lN1m81jH1jH1m81_H1m82X
  pA2m81m81m81m82m71m72m71m72-25XpPAXaSX5aCXc5Dn8NjH1uQ1lM1m81m71XpA3m71XpA1m82XW14m83m73m72m72m71
  m71lN1m81jH1jH1m81_H1m82XpA2m81m81m81m82m71m72m71m72-25XpPAXaSX5aCXc5DnANjH1uR1lM1m81m71XpA3m71X
  pA1m82XW14m83m73m72m72m71m71lN1m81jH1jH1m81_H1m82XpA2m81m81m81m82m71m72m71m72-25XpPAXaSX5aCXc5Dn
  BNjH1uS1lM1m81m71XpA3m71XpA1m82XW14m83m73m72m72m71m71lN1m81jH1jH1m81_H1m82XpA2m81m81m81m82m71m72
  m71m72-25XpPAXaSX4aCXc5X4jH1wQ1lJ1m81m71XpA3m71XpA1m82XW14m83m73m72m72m71m71lK1m81jH1jH1m81_H1m8
  2XpA2m81m81m81m82m71m72m71m72-25XpPAXaSX5aCXaKDpFNl31rS1oL1p51p31XqB3p31XqB1p52_U4p53p33p32p32p3
  1p31oM1p51l31l31p51_I1p52XqB2p51p51p51p52p31p32p31p32-25XqCAXcMX5aCXc5X4jN1v01lM1m81m71XpO3m71Xp
  O1m82XW14m83m73m72m72m71m71lN1m81jN1jN1m81_G1m82XpO2m81m81m81m81Xq01m71m72m71m72-25XpBAXaSX5aCXa
  KDpSNl31rV1oL1p51p31XqB3p31XqB1p52_U4p53p33p32p32p31p31oM1p51l31l31p51_I1p52XqB2p51p51p51p52p31p
  32p31p32-25XqCAXcMX5aCXc5X4jN1u41lM1m81m71XpO3m71XpO1m82XW14m83m73m72m72m71m71lN1m81jN1jN1m81_G1
  m82XpO2m81m81m81m81XpJ1m71m72m71m72-25XpBAXaSX5aCXaKDqFNl31sD1oL1p51p31XqB3p31XqB1p52_U4p53p33p3
  2p32p31p31oM1p51l31l31p51_I1p52XqB2p51p51p51p52p31p32p31p32-25XqCAXcMX5aCXaKDqMNl31sE1oL1p51p31X
  qB3p31XqB1p52_U4p53p33p32p32p31p31oM1p51l31l31p51_I1p52XqB2p51p51p51p52p31p32p31p32-25XqCAXcMX5a
  CXaKDqPNl31sF1oL1p51p31XqB3p31XqB1p52_U4p53p33p32p32p31p31oM1p51l31l31p51_I1p52XqB2p51p51p51p52p
  31p32p31p32-25XqCAXcMX5aCXaKDqRNl31sG1oL1p51p31XqB3p31XqB1p52_U4p53p33p32p32p31p31oM1p51l31l31p5
  1_I1p52XqB2p51p51p51p52p31p32p31p32-25XqCAXcMX5aCXc5X4jN1u61lM1m81m71XpO3m71XpO1m82XW14m83m73m72
  m72m71m71lN1m81jN1jN1m81_G1m82XpO2m81m81m81m81XpM1m71m72m71m72-25XpBAXaSX4aCXaKX4kJ1wP1nN1m81p31
  XpA3p31XpA1m82XW14m83p33p32p32p31p31nO1m81kJ1kJ1m81_H1m82XpA2m81m81m81m82p31p32p31p32-25XqCAXcMX
  5aCXc5DmGNlI1vN1lM1m81m71XqO3m71XqO1m82XW14m83m73m72m72m71m71lN1m81lI1lI1m81_S1m82XqO2m81m81m81m
  82m71m72m71m72-25XqJAXaSX5aCXc5DmSNlI1vQ1lM1m81m71XqO3m71XqO1m82XW14m83m73m72m72m71m71lN1m81lI1l
  I1m81_S1m82XqO2m81m81m81m82m71m72m71m72-25XqJAXaSX5aCXc5Dn1NlI1w81lM1m81m71XqO3m71XqO1m82XW14m83
  m73m72m72m71m71lN1m81lI1lI1m81_S1m82XqO2m81m81m81m82m71m72m71m72-25XqJAXaSX5aCXc5Dn8NlI1w91lM1m8
  1m71XqO3m71XqO1m82XW14m83m73m72m72m71m71lN1m81lI1lI1m81_S1m82XqO2m81m81m81m82m71m72m71m72-25XqJA
  XaSX5aCXc5DnANlI1wA1lM1m81m71XqO3m71XqO1m82XW14m83m73m72m72m71m71lN1m81lI1lI1m81_S1m82XqO2m81m81
  m81m82m71m72m71m72-25XqJAXaSX5aCXc5DnBNlI1wB1lM1m81m71XqO3m71XqO1m82XW14m83m73m72m72m71m71lN1m81
  lI1lI1m81_S1m82XqO2m81m81m81m82m71m72m71m72-25XqJAXaSX4aCXc5X4jH1wQ1lJ1m81m71XpA3m71XpA1m82XW14m
  83m73m72m72m71m71lK1m81jH1jH1m81_H1m82XpA2m81m81m81m82m71m72m71m72-25XqJAXaSX4aCXaKX4kR1oN1oL1p5
  1p31XnH3p31XnH1p52_U4p53p33p32p32p31p31oM1p51kR1kR1p51_61p52XnH2p51p51p51p52p31p32p31p32-25XnIAX
  cMX4aCXaKX4kR1oQ1oL1p51p31XnH3p31XnH1p52_U4p53p33p32p32p31p31oM1p51kR1kR1p51_61p52XnH2p51p51p51p
  52p31p32p31p32-25XnIAXcMX4aCXaKX4kR1oR1oL1p51p31XnH3p31XnH1p52_U4p53p33p32p32p31p31oM1p51kR1kR1p
  51_61p52XnH2p51p51p51p52p31p32p31p32-25XnIAXcMX4aCXaKX4kR1pE1oL1p51p31XnH3p31XnH1p52_U4p53p33p32
  p32p31p31oM1p51kR1kR1p51_61p52XnH2p51p51p51p52p31p32p31p32-25XnIAXcMX4aCXc5X4jN1sP1lM1m81m71Xb53
  m71Xb51m82XW14m83m73m72m72m71m71lN1m81l41l41m81_G1m82Xb52m81m81m81m82m71m72m71m72-25XpBAXaSX4aCX
  c5X4jH1wQ1lM1m81m71XaD3m71XaD1m82XW14m83m73m72m72m71m71lN1m81l21l21m81_H1m82XaD2m81m81m81m82m71m
  72m71m72-25XpPAXaSX4aCXaKX4kR1pJ1oL1p51p31XnH3p31XnH1p52_U4p53p33p32p32p31p31oM1p51kR1kR1p51_61p
  52XnH2p51p51p51p52p31p32p31p32-25XnIAXcMX4aCXc5X4jH1wF1lM1m81m71XpA3m71XpA1m82XW14m83m73m72m72m7
  1m71lN1m81jH1jH1m81_H1m82XpA2m81m81m81m82m71m72m71m72-25XpPAXaSX4aCXaKX4kR1pR1oL1p51p31XnH3p31Xn
  H1p52_U4p53p33p32p32p31p31oM1p51kR1kR1p51_61p52XnH2p51p51p51p52p31p32p31p32-25XnIAXcMX4aCXaKX4kR
  1pU1oL1p51p31XnH3p31XnH1p52_U4p53p33p32p32p31p31oM1p51kR1kR1p51_61p52XnH2p51p51p51p52p31p32p31p3
  2-25XnIAXcMX4aCXc5X4jH1wG1lM1m81m71XpA3m71XpA1m82XW14m83m73m72m72m71m71lN1m81jH1jH1m81_H1m82XpA2
  m81m81m81m82m71m72m71m72-25XpPAXaSX4aCXaKX4kR1q01oL1p51p31XnH3p31XnH1p52_U4p53p33p32p32p31p31oM1
  p51kR1kR1p51_61p52XnH2p51p51p51p52p31p32p31p32-25XnIAXcMX4aCXaKX4kR1tB1oL1p51p31XnH3p31XnH1p52_U
  4p53p33p32p32p31p31oM1p51kR1kR1p51_61p52XnH2p51p51p51p52p31p32p31p32-25XnIAXcMX4aCXaKX4kR1q11oL1
  p51p31XnH3p31XnH1p52_U4p53p33p32p32p31p31oM1p51kR1kR1p51_61p52XnH2p51p51p51p52p31p32p31p32-25XnI
  AXcMX4aCXaKX4kR1q21oL1p51p31XnH3p31XnH1p52_U4p53p33p32p32p31p31oM1p51kR1kR1p51_61p52XnH2p51p51p5
  1p52p31p32p31p32-25XnIAXcMX4aCXaKX4kR1q31oL1p51p31XnH3p31XnH1p52_U4p53p33p32p32p31p31oM1p51kR1kR
  1p51_61p52XnH2p51p51p51p52p31p32p31p32-25XnIAXcMX4aCXaKX4kR1q41oL1p51p31XnH3p31XnH1p52_U4p53p33p
  32p32p31p31oM1p51kR1kR1p51_61p52XnH2p51p51p51p52p31p32p31p32-25XnIAXcMX4aCXaKX4kR1q51oL1p51p31Xn
  H3p31XnH1p52_U4p53p33p32p32p31p31oM1p51kR1kR1p51_61p52XnH2p51p51p51p52p31p32p31p32-25XnIAXcMX4aC
  XaKX4kR1q61oL1p51p31XnH3p31XnH1p52_U4p53p33p32p32p31p31oM1p51kR1kR1p51_61p52XnH2p51p51p51p52p31p
  32p31p32-25XnIAXcMX4aCXaKX4kR1q71oL1p51p31XnH3p31XnH1p52_U4p53p33p32p32p31p31oM1p51kR1kR1p51_61p
  52XnH2p51p51p51p52p31p32p31p32-25XnIAXcMX4aCXaKX4kR1q81oL1p51p31XnH3p31XnH1p52_U4p53p33p32p32p31
  p31oM1p51kR1kR1p51_61p52XnH2p51p51p51p52p31p32p31p32-25XnIAXcMX4aCXaKX4kR1q91oL1p51p31XnH3p31XnH
  1p52_U4p53p33p32p32p31p31oM1p51kR1kR1p51_61p52XnH2p51p51p51p52p31p32p31p32-25XnIAXcMX4aCXaKX4kR1
  qA1oL1p51p31XnH3p31XnH1p52_U4p53p33p32p32p31p31oM1p51kR1kR1p51_61p52XnH2p51p51p51p52p31p32p31p32
  -25XnIAXcMX4aCXaKX4kR1qE1oL1p51p31XnH3p31XnH1p52_U4p53p33p32p32p31p31oM1p51kR1kR1p51_61p52XnH2p5
  1p51p51p52p31p32p31p32-25XnIAXcMX4aCXaKX4kR1sR1oL1p51p31XnH3p31XnH1p52_U4p53p33p32p32p31p31oM1p5
  1kR1kR1p51_61p52XnH2p51p51p51p52p31p32p31p32-25XnIAXcMX4aCXc5X4jN1wH1lM1m81m71XpO3m71XpO1m82XW14
  m83m73m72m72m71m71lN1m81jN1jN1m81_G1m82XpO2m81m81m81m82m71m72m71m72-25XpBAXaSX4aCXaKX4kR1sT1oL1p
  51p31XnH3p31XnH1p52_U4p53p33p32p32p31p31oM1p51kR1kR1p51_61p52XnH2p51p51p51p52p31p32p31p32-25XnIA
  XcMX4aCXaKX4kR1sU1oL1p51p31XnH3p31XnH1p52_U4p53p33p32p32p31p31oM1p51kR1kR1p51_61p52XnH2p51p51p51
  p52p31p32p31p32-25XnIAXcMX4aCXaKX4kR1tE1oL1p51p31XnH3p31XnH1p52_U4p53p33p32p32p31p31oM1p51kR1kR1
  p51_61p52XnH2p51p51p51p52p31p32p31p32-25XnIAXcMX4aCXc5X4jN1sV1lM1m81m71XpO3m71XpO1m82XW14m83m73m
  72m72m71m71lN1m81jN1jN1m81_G1m82XpO2m81m81m81m82m71m72m71m72-25XpBAXaSX4aCXc5X4jN1sP1lM1m81m71Xp
  O3m71XpO1m82XW14m83m73m72m72m71m71lN1m81jN1jN1m81_G1m82XpO2m81m81m81m82m71m72m71m72-25XpBAXaSX4a
  CXc5X4jN1vD1lM1m81m71XpO3m71XpO1m82XW14m83m73m72m72m71m71lN1m81jN1jN1m81_G1m82XpO2m81m81m81m82m7
  1m72m71m72-25XpBAXaSX4aCXc5X4jN1vE1lM1m81m71XpO3m71XpO1m82XW14m83m73m72m72m71m71lN1m81jN1jN1m81_
  G1m82XpO2m81m81m81m82m71m72m71m72-25XpBAXaSX4aCXaKX4kR1r41oL1p51p31XnH3p31XnH1p52_U4p53p33p32p32
  p31p31oM1p51kR1kR1p51_61p52XnH2p51p51p51p52p31p32p31p32-25XnIAXcMX4aCXc5X4jN1vB1lM1m81m71XpO3m71
  XpO1m82XW14m83m73m72m72m71m71lN1m81jN1jN1m81_G1m82XpO2m81m81m81m82m71m72m71m72-25XpBAXaSX4aCXc5X
  4jN1lP1lM1m81m71XpO3m71XpO1m82XW14m83m73m72m72m71m71lN1m81jN1jN1m81_G1m82XpO2m81m81m81m82m71m72m
  71m72-25XpBAXaSX4aCXc5X4jN1lQ1lM1m81m71XpO3m71XpO1m82XW14m83m73m72m72m71m71lN1m81jN1jN1m81_G1m82
  XpO2m81m81m81m82m71m72m71m72-25XpBAXaSX4aCXc5X4jN1nR1lM1m81m71XpO3m71XpO1m82XW14m83m73m72m72m71m
  71lN1m81jN1jN1m81_G1m82XpO2m81m81m81m82m71m72m71m72-25XpBAXaSX4aCXc5X4jN1nT1lM1m81m71XpO3m71XpO1
  m82XW14m83m73m72m72m71m71lN1m81jN1jN1m81_G1m82XpO2m81m81m81m82m71m72m71m72-25XpBAXaSX4aCXc5X4jN1
  nU1lM1m81m71XpO3m71XpO1m82XW14m83m73m72m72m71m71lN1m81jN1jN1m81_G1m82XpO2m81m81m81m82m71m72m71m7
  2-25XpBAXaSX4aCXc5X4jN1o01lM1m81m71XpO3m71XpO1m82XW14m83m73m72m72m71m71lN1m81jN1jN1m81_G1m82XpO2
  m81m81m81m82m71m72m71m72-25XpBAXaSX4aCXc5X4jN1o11lM1m81m71XpO3m71XpO1m82XW14m83m73m72m72m71m71lN
  1m81jN1jN1m81_G1m82XpO2m81m81m81m82m71m72m71m72-25XpBAXaSX4aCXc5X4jN1p01lM1m81m71XpO3m71XpO1m82X
  W14m83m73m72m72m71m71lN1m81jN1jN1m81_G1m82XpO2m81m81m81m82m71m72m71m72-25XpBAXaSX4aCXc5X4jN1o21l
  M1m81m71XpO3m71XpO1m82XW14m83m73m72m72m71m71lN1m81jN1jN1m81_G1m82XpO2m81m81m81m82m71m72m71m72-25
  XpBAXaSX4aCXc5X4jN1o31lM1m81m71XpO3m71XpO1m82XW14m83m73m72m72m71m71lN1m81jN1jN1m81_G1m82XpO2m81m
  81m81m82m71m72m71m72-25XpBAXaSX4aCXc5X4jN1o41lM1m81m71XpO3m71XpO1m82XW14m83m73m72m72m71m71lN1m81
  jN1jN1m81_G1m82XpO2m81m81m81m82m71m72m71m72-25XpBAXaSX4aCXc5X4jN1o51lM1m81m71XpO3m71XpO1m82XW14m
  83m73m72m72m71m71lN1m81jN1jN1m81_G1m82XpO2m81m81m81m82m71m72m71m72-25XpBAXaSX4aCXc5X4jN1o61lM1m8
  1m71XpO3m71XpO1m82XW14m83m73m72m72m71m71lN1m81jN1jN1m81_G1m82XpO2m81m81m81m82m71m72m71m72-25XpBA
  XaSX4aCXc5X4jN1o71lM1m81m71XpO3m71XpO1m82XW14m83m73m72m72m71m71lN1m81jN1jN1m81_G1m82XpO2m81m81m8
  1m82m71m72m71m72-25XpBAXaSX4aCXc5X4jN1o81lM1m81m71XpO3m71XpO1m82XW14m83m73m72m72m71m71lN1m81jN1j
  N1m81_G1m82XpO2m81m81m81m82m71m72m71m72-25XpBAXaSX4aCXc5X4jN1o91lM1m81m71XpO3m71XpO1m82XW14m83m7
  3m72m72m71m71lN1m81jN1jN1m81_G1m82XpO2m81m81m81m82m71m72m71m72-25XpBAXaSX4aCXc5X4jN1oA1lM1m81m71
  XpO3m71XpO1m82XW14m83m73m72m72m71m71lN1m81jN1jN1m81_G1m82XpO2m81m81m81m82m71m72m71m72-25XpBAXaSX
  4aCXc5X4jN1oB1lM1m81m71XpO3m71XpO1m82XW14m83m73m72m72m71m71lN1m81jN1jN1m81_G1m82XpO2m81m81m81m82
  m71m72m71m72-25XpBAXaSX4aCXc5X4jN1oC1lM1m81m71XpO3m71XpO1m82XW14m83m73m72m72m71m71lN1m81jN1jN1m8
  1_G1m82XpO2m81m81m81m82m71m72m71m72-25XpBAXaSX4aCXc5X4lI1wI1lM1m81m71XqO3m71XqO1m82XW14m83m73m72
  m72m71m71lN1m81lI1lI1m81_S1m82XqO2m81m81m81m82m71m72m71m72-25XqJAXaSX4aCXc5X4jN1oH1lM1m81m71XpO3
  m71XpO1m82XW14m83m73m72m72m71m71lN1m81jN1jN1m81_G1m82XpO2m81m81m81m82m71m72m71m72-25XpBAXaSX4aCX
  c5X4jN1lO1lM1m81m71XpO3m71XpO1m82XW14m83m73m72m72m71m71lN1m81jN1jN1m81_G1m82XpO2m81m81m81m82m71m
  72m71m72-25XpBAXaSX4aCXaKX4l31t01oL1p51p31XqB3p31XqB1p52_U4p53p33p32p32p31p31oM1p51l31l31p51_I1p
  52XqB2p51p51p51p52p31p32p31p32-25XqCAXcMX4aCXc5X4jH1lP1lM1m81m71XpA3m71XpA1m82XW14m83m73m72m72m7
  1m71lN1m81jH1jH1m81_H1m82XpA2m81m81m81m82m71m72m71m72-25XpPAXaSX4aCXc5X4jH1lQ1lM1m81m71XpA3m71Xp
  A1m82XW14m83m73m72m72m71m71lN1m81jH1jH1m81_H1m82XpA2m81m81m81m82m71m72m71m72-25XpPAXaSX4aCXc5X4j
  H1u71lM1m81m71XpA3m71XpA1m82XW14m83m73m72m72m71m71lN1m81jH1jH1m81_H1m82XpA2m81m81m81m82m71m72m71
  m72-25XpPAXaSX4aCXc5X4jH1u91lM1m81m71XpA3m71XpA1m82XW14m83m73m72m72m71m71lN1m81jH1jH1m81_H1m82Xp
  A2m81m81m81m82m71m72m71m72-25XpPAXaSX4aCXc5X4jH1uA1lM1m81m71XpA3m71XpA1m82XW14m83m73m72m72m71m71
  lN1m81jH1jH1m81_H1m82XpA2m81m81m81m82m71m72m71m72-25XpPAXaSX4aCXc5X4jH1uC1lM1m81m71XpA3m71XpA1m8
  2XW14m83m73m72m72m71m71lN1m81jH1jH1m81_H1m82XpA2m81m81m81m82m71m72m71m72-25XpPAXaSX4aCXc5X4jH1uD
  1lM1m81m71XpA3m71XpA1m82XW14m83m73m72m72m71m71lN1m81jH1jH1m81_H1m82XpA2m81m81m81m82m71m72m71m72-
  25XpPAXaSX4aCXc5X4jH1uE1lM1m81m71XpA3m71XpA1m82XW14m83m73m72m72m71m71lN1m81jH1jH1m81_H1m82XpA2m8
  1m81m81m82m71m72m71m72-25XpPAXaSX4aCXc5X4jH1uF1lM1m81m71XpA3m71XpA1m82XW14m83m73m72m72m71m71lN1m
  81jH1jH1m81_H1m82XpA2m81m81m81m82m71m72m71m72-25XpPAXaSX4aCXc5X4jH1uG1lM1m81m71XpA3m71XpA1m82XW1
  4m83m73m72m72m71m71lN1m81jH1jH1m81_H1m82XpA2m81m81m81m82m71m72m71m72-25XpPAXaSX4aCXc5X4jH1uH1lM1
  m81m71XpA3m71XpA1m82XW14m83m73m72m72m71m71lN1m81jH1jH1m81_H1m82XpA2m81m81m81m82m71m72m71m72-25Xp
  PAXaSX4aCXc5X4jH1uI1lM1m81m71XpA3m71XpA1m82XW14m83m73m72m72m71m71lN1m81jH1jH1m81_H1m82XpA2m81m81
  m81m82m71m72m71m72-25XpPAXaSX4aCXc5X4jH1uJ1lM1m81m71XpA3m71XpA1m82XW14m83m73m72m72m71m71lN1m81jH
  1jH1m81_H1m82XpA2m81m81m81m82m71m72m71m72-25XpPAXaSX4aCXc5X4jH1uK1lM1m81m71XpA3m71XpA1m82XW14m83
  m73m72m72m71m71lN1m81jH1jH1m81_H1m82XpA2m81m81m81m82m71m72m71m72-25XpPAXaSX4aCXc5X4jH1uL1lM1m81m
  71XpA3m71XpA1m82XW14m83m73m72m72m71m71lN1m81jH1jH1m81_H1m82XpA2m81m81m81m82m71m72m71m72-25XpPAXa
  SX4aCXc5X4jH1uM1lM1m81m71XpA3m71XpA1m82XW14m83m73m72m72m71m71lN1m81jH1jH1m81_H1m82XpA2m81m81m81m
  82m71m72m71m72-25XpPAXaSX4aCXc5X4jH1uN1lM1m81m71XpA3m71XpA1m82XW14m83m73m72m72m71m71lN1m81jH1jH1
  m81_H1m82XpA2m81m81m81m82m71m72m71m72-25XpPAXaSX4aCXc5X4jH1uO1lM1m81m71XpA3m71XpA1m82XW14m83m73m
  72m72m71m71lN1m81jH1jH1m81_H1m82XpA2m81m81m81m82m71m72m71m72-25XpPAXaSX4aCXc5X4jH1uT1lM1m81m71Xp
  A3m71XpA1m82XW14m83m73m72m72m71m71lN1m81jH1jH1m81_H1m82XpA2m81m81m81m82m71m72m71m72-25XpPAXaSX4a
  CXc5X4jH1lO1lM1m81m71XpA3m71XpA1m82XW14m83m73m72m72m71m71lN1m81jH1jH1m81_H1m82XpA2m81m81m81m82m7
  1m72m71m72-25XpPAXaSX4aCXaKX4l31oR1oL1p51p31XqB3p31XqB1p52_U4p53p33p32p32p31p31oM1p51l31l31p51_I
  1p52XqB2p51p51p51p52p31p32p31p32-25XqCAXcMX4aCXaKX4l31rR1oL1p51p31XqB3p31XqB1p52_U4p53p33p32p32p
  31p31oM1p51l31l31p51_I1p52XqB2p51p51p51p52p31p32p31p32-25XqCAXcMX4aCXaKX4l31rT1oL1p51p31XqB3p31X
  qB1p52_U4p53p33p32p32p31p31oM1p51l31l31p51_I1p52XqB2p51p51p51p52p31p32p31p32-25XqCAXcMX4aCXaKX4l
  31rU1oL1p51p31XqB3p31XqB1p52_U4p53p33p32p32p31p31oM1p51l31l31p51_I1p52XqB2p51p51p51p52p31p32p31p
  32-25XqCAXcMX4aCXaKX4l31s01oL1p51p31XqB3p31XqB1p52_U4p53p33p32p32p31p31oM1p51l31l31p51_I1p52XqB2
  p51p51p51p52p31p32p31p32-25XqCAXcMX4aCXc5X4jH1wJ1lM1m81m71XpA3m71XpA1m82XW14m83m73m72m72m71m71lN
  1m81jH1jH1m81_H1m82XpA2m81m81m81m82m71m72m71m72-25XpPAXaSX4aCXaKX4l31s11oL1p51p31XqB3p31XqB1p52_
  U4p53p33p32p32p31p31oM1p51l31l31p51_I1p52XqB2p51p51p51p52p31p32p31p32-25XqCAXcMX4aCXaKX4l31s21oL
  1p51p31XqB3p31XqB1p52_U4p53p33p32p32p31p31oM1p51l31l31p51_I1p52XqB2p51p51p51p52p31p32p31p32-25Xq
  CAXcMX4aCXaKX4l31s31oL1p51p31XqB3p31XqB1p52_U4p53p33p32p32p31p31oM1p51l31l31p51_I1p52XqB2p51p51p
  51p52p31p32p31p32-25XqCAXcMX4aCXaKX4l31s41oL1p51p31XqB3p31XqB1p52_U4p53p33p32p32p31p31oM1p51l31l
  31p51_I1p52XqB2p51p51p51p52p31p32p31p32-25XqCAXcMX4aCXaKX4l31s51oL1p51p31XqB3p31XqB1p52_U4p53p33
  p32p32p31p31oM1p51l31l31p51_I1p52XqB2p51p51p51p52p31p32p31p32-25XqCAXcMX4aCXaKX4l31s61oL1p51p31X
  qB3p31XqB1p52_U4p53p33p32p32p31p31oM1p51l31l31p51_I1p52XqB2p51p51p51p52p31p32p31p32-25XqCAXcMX4a
  CXaKX4l31s71oL1p51p31XqB3p31XqB1p52_U4p53p33p32p32p31p31oM1p51l31l31p51_I1p52XqB2p51p51p51p52p31
  p32p31p32-25XqCAXcMX4aCXaKX4l31s81oL1p51p31XqB3p31XqB1p52_U4p53p33p32p32p31p31oM1p51l31l31p51_I1
  p52XqB2p51p51p51p52p31p32p31p32-25XqCAXcMX4aCXaKX4l31s91oL1p51p31XqB3p31XqB1p52_U4p53p33p32p32p3
  1p31oM1p51l31l31p51_I1p52XqB2p51p51p51p52p31p32p31p32-25XqCAXcMX4aCXaKX4l31sA1oL1p51p31XqB3p31Xq
  B1p52_U4p53p33p32p32p31p31oM1p51l31l31p51_I1p52XqB2p51p51p51p52p31p32p31p32-25XqCAXcMX4aCXaKX4l3
  1sB1oL1p51p31XqB3p31XqB1p52_U4p53p33p32p32p31p31oM1p51l31l31p51_I1p52XqB2p51p51p51p52p31p32p31p3
  2-25XqCAXcMX4aCXaKX4l31sC1oL1p51p31XqB3p31XqB1p52_U4p53p33p32p32p31p31oM1p51l31l31p51_I1p52XqB2p
  51p51p51p52p31p32p31p32-25XqCAXcMX4aCXc5X4jN1wK1lM1m81m71XpO3m71XpO1m82XW14m83m73m72m72m71m71lN1
  m81jN1jN1m81_G1m82XpO2m81m81m81m82m71m72m71m72-25XpBAXaSX4aCXaKX4l31sH1oL1p51p31XqB3p31XqB1p52_U
  4p53p33p32p32p31p31oM1p51l31l31p51_I1p52XqB2p51p51p51p52p31p32p31p32-25XqCAXcMX4aCXc5X4jH1wL1lM1
  m81m71XpA3m71XpA1m82XW14m83m73m72m72m71m71lN1m81jH1jH1m81_H1m82XpA2m81m81m81m82m71m72m71m72-25Xp
  PAXaSX4aCXaKX4l31oN1oL1p51p31XqB3p31XqB1p52_U4p53p33p32p32p31p31oM1p51l31l31p51_I1p52XqB2p51p51p
  51p52p31p32p31p32-25XqCAXcMX4aCXaKX4l31oQ1oL1p51p31XqB3p31XqB1p52_U4p53p33p32p32p31p31oM1p51l31l
  31p51_I1p52XqB2p51p51p51p52p31p32p31p32-25XqCAXcMX4aCXc5X4lI1lP1lM1m81m71XqO3m71XqO1m82XW14m83m7
  3m72m72m71m71lN1m81lI1lI1m81_S1m82XqO2m81m81m81m82m71m72m71m72-25XqJAXaSX4aCXc5X4lI1lQ1lM1m81m71
  XqO3m71XqO1m82XW14m83m73m72m72m71m71lN1m81lI1lI1m81_S1m82XqO2m81m81m81m82m71m72m71m72-25XqJAXaSX
  4aCXc5X4lI1vM1lM1m81m71XqO3m71XqO1m82XW14m83m73m72m72m71m71lN1m81lI1lI1m81_S1m82XqO2m81m81m81m82
  m71m72m71m72-25XqJAXaSX4aCXc5X4lI1vO1lM1m81m71XqO3m71XqO1m82XW14m83m73m72m72m71m71lN1m81lI1lI1m8
  1_S1m82XqO2m81m81m81m82m71m72m71m72-25XqJAXaSX4aCXc5X4lI1vP1lM1m81m71XqO3m71XqO1m82XW14m83m73m72
  m72m71m71lN1m81lI1lI1m81_S1m82XqO2m81m81m81m82m71m72m71m72-25XqJAXaSX4aCXc5X4lI1vR1lM1m81m71XqO3
  m71XqO1m82XW14m83m73m72m72m71m71lN1m81lI1lI1m81_S1m82XqO2m81m81m81m82m71m72m71m72-25XqJAXaSX4aCX
  c5X4lI1vS1lM1m81m71XqO3m71XqO1m82XW14m83m73m72m72m71m71lN1m81lI1lI1m81_S1m82XqO2m81m81m81m82m71m
  72m71m72-25XqJAXaSX4aCXc5X4lI1vT1lM1m81m71XqO3m71XqO1m82XW14m83m73m72m72m71m71lN1m81lI1lI1m81_S1
  m82XqO2m81m81m81m82m71m72m71m72-25XqJAXaSX4aCXc5X4lI1vU1lM1m81m71XqO3m71XqO1m82XW14m83m73m72m72m
  71m71lN1m81lI1lI1m81_S1m82XqO2m81m81m81m82m71m72m71m72-25XqJAXaSX4aCXc5X4lI1vV1lM1m81m71XqO3m71X
  qO1m82XW14m83m73m72m72m71m71lN1m81lI1lI1m81_S1m82XqO2m81m81m81m82m71m72m71m72-25XqJAXaSX4aCXc5X4
  lI1w01lM1m81m71XqO3m71XqO1m82XW14m83m73m72m72m71m71lN1m81lI1lI1m81_S1m82XqO2m81m81m81m82m71m72m7
  1m72-25XqJAXaSX4aCXc5X4lI1w11lM1m81m71XqO3m71XqO1m82XW14m83m73m72m72m71m71lN1m81lI1lI1m81_S1m82X
  qO2m81m81m81m82m71m72m71m72-25XqJAXaSX4aCXc5X4lI1w21lM1m81m71XqO3m71XqO1m82XW14m83m73m72m72m71m7
  1lN1m81lI1lI1m81_S1m82XqO2m81m81m81m82m71m72m71m72-25XqJAXaSX4aCXc5X4lI1w31lM1m81m71XqO3m71XqO1m
  82XW14m83m73m72m72m71m71lN1m81lI1lI1m81_S1m82XqO2m81m81m81m82m71m72m71m72-25XqJAXaSX4aCXc5X4lI1w
  41lM1m81m71XqO3m71XqO1m82XW14m83m73m72m72m71m71lN1m81lI1lI1m81_S1m82XqO2m81m81m81m82m71m72m71m72
  -25XqJAXaSX4aCXc5X4lI1w51lM1m81m71XqO3m71XqO1m82XW14m83m73m72m72m71m71lN1m81lI1lI1m81_S1m82XqO2m
  81m81m81m82m71m72m71m72-25XqJAXaSX4aCXc5X4lI1w61lM1m81m71XqO3m71XqO1m82XW14m83m73m72m72m71m71lN1
  m81lI1lI1m81_S1m82XqO2m81m81m81m82m71m72m71m72-25XqJAXaSX4aCXc5X4lI1w71lM1m81m71XqO3m71XqO1m82XW
  14m83m73m72m72m71m71lN1m81lI1lI1m81_S1m82XqO2m81m81m81m82m71m72m71m72-25XqJAXaSX4aCXc5X4lI1wC1lM
  1m81m71XqO3m71XqO1m82XW14m83m73m72m72m71m71lN1m81lI1lI1m81_S1m82XqO2m81m81m81m82m71m72m71m72-25X
  qJAXaSX4aCXc5X4lI1lO1lM1m81m71XqO3m71XqO1m82XW14m83m73m72m72m71m71lN1m81lI1lI1m81_S1m82XqO2m81m8
  1m81m82m71m72m71m72-25XqJAXaSX4aCXc5X4jH1wN1lM1m81m71XpA3m71XpA1m82XW14m83m73m72m72m71m71lN1m81j
  H1jH1m81_H1m82XpA2m81m81m81m82m71m72m71m72-25XpPAXaSX4aCXc5X4jH1wM1lM1m81m71XpA3m71XpA1m82XW14m8
  3m73m72m72m71m71lN1m81jH1jH1m81_H1m82XpA2m81m81m81m82m71m72m71m72-25XpPAXaSAa7Xg41XaL3hABh91h9XD
  h93h92h9O-2FXaM6cRXgMBXnT7XgM1XgM7XdI1XdJ6cRXgMBXnT7XgM1XgM7Xf21XdJ5cRXgMIXgM1XgM7XdI1XdJ5cRXgMI
  XgM1XgM7Xf21XdJ1d6XpG1d6XnT6aOXaPTXYQ4XYQRXYQX1XdI1XdJ2bEgB1hR1d6XpT6aOXaPTXYQ4XYQRXYQX1Xf21XdJ1
  d6XqF1bFiD4aOXaPTXYQ4XYQRXYQ1aQi91d6XqM4aOXaPTXXE4XXERXXE2dLXdI1XdJ2dLXf21XdJ3bLXeM4XeMRXeM2cSmE
  4mP1cSmE1d0mC2cSpC4pO1cSpC1d0pA2d0pATXb22d0mCTXXI2d0mCNXe12d0mCNXeI2d0mCNXf62d0mCNXfB2d0mCNXfJGb
  LXo42Xd12Xo4RXo41XeP6Xd36-28Xd11XeP1XeP1Xd11Xd31Xd32y05XeQ1Xd5GbLXo42Xd12Xo4RXo41Xd26Xd36-28Xd11
  Xd21Xd21Xd11Xd31Xd32y05Xd41Xd5EbLXo42XgN2Xo4RXo41XgO6Xd36-28XgN1XgO1XgO1XgN1Xd31Xd32y09cLXfC6XeB
  6-29XfC1XfC2XeB1XeB2y05XfDAbLXo42XeO2Xo4RXo47Xo9EXeO3XeO1Xo91Xo98XeR9cRXXV6-24Xh52zN3zO3XXV1XXV2
  y2HwV8cLXgO6XeB6-29XgO1XgO2XeB1XeB2y09cRXXV6-24Xh52zN3zO3XXV1XXV2y2Hx0AbLXo42Xd12Xo4RXo47Xo9EXd1
  3Xd11Xo91Xo98Xd59cRXXV6-24Xh52zN3zO3XXV1XXV2y2Hx39cRXXV6-24Xh52zN3zO3XXV1XXV2y2Hx59bLXo42XgN2Xo4
  RXo47Xo9EXgN3XgN1Xo91Xo94aPzRY2XY8IXY81XY85cRXgS6-2CXgS1XgS2yI3cRXgMIXgM1XgM4cRXgMIXgM1XgM7XfE3c
  RXmEIXmE1XmE5cRXY96-2CXY91XY92yI3cRXYBIXYB1XYB3cRXmIIXmI1XmI3cRXmKIXmK1XmK3cRXn0IXn01Xn01d0-A3cR
  XmMIXmM1XmM3cRXmNIXmN1XmN3cRXn1IXn11Xn13cRXn2IXn21Xn22d1-2FyI3cRXhKIXhK1XhK8aBi0Bh91h9XDh93h92h9
  O-2FXaM3cRXhNIXhN1XhN3cRXhOIXhO1XhO3cRXiRIXiR1XiR3cRXj0IXj01Xj03cRXn4IXn41Xn43cRXhPIXhP1XhP3cRXh
  QIXhQ1XhQ3cRXhRIXhR1XhR3cRXiKIXiK1XiK3cRXiNIXiN1XiN3cRXiOIXiO1XiO3cRXiSIXiS1XiS3cRXiTIXiT1XiT3cR
  Xj1IXj11Xj13cRXj2IXj21Xj23cRXjPIXjP1XjP3cRXjQIXjQ1XjQ3cRXk0IXk01Xk03cRXk1IXk11Xk13cRXmLIXmL1XmL3
  cRXmRIXmR1XmR3cRXmTIXmT1XmT3cRXmUIXmU1XmU3cRXn5IXn51Xn53cRXn6IXn61Xn63cRXn9IXn91Xn93cRXnAIXnA1Xn
  A3cRXnCIXnC1XnC3cRXnDIXnD1XnD3cRXhMIXhM1XhM3cRXiMIXiM1XiM3cRXiQIXiQ1XiQ3cRXiVIXiV1XiV3cRXjOIXjO1
  XjO3cRXjVIXjV1XjV3cRXmJIXmJ1XmJ3cRXmSIXmS1XmS3cRXmVIXmV1XmV3cRXn3IXn31Xn33cRXn8IXn81Xn83cRXnBIXn
  B1XnB4aEXg62XnO1XnOYAXaN6bQXW01XW01XW43pD1XW0XPXW04bRXZ73XXU3XZ7XPXWK6bQXWC1XWC1XW43qD1XWCXPXWC6
  bQXW31XW31XW43mF1XW3XPXW34bRXZ73XXU3XZ7XPXWP6bQXWC1XWC1XW43n01XWCXPXWC6bQXW61XW61XW43XZM1XW6XPXW
  64bRXZ73XXU3XZ7XPXWR6bQXWC1XWC1XW43XZP1XWCXPXWC6bQXW91XW91XW43XZS1XW9XPXW94bRXZ73XXU3XZ7XPXWT6bQ
  XWC1XWC1XW43XZV1XWCXPXWC5bQXWC1XWC1XW44XWCXPXWC4bRXZ73XXU3XZ7XPXWN5bQXZE1XZE1XW74XZE2XZE5bQXZF1X
  ZF1XW74XZF2XZF3a9XdG1XdHYHXdH3aAXo88XdPY9Xo84aOXaOTXYQ4XYQRXYQ4aOXeETXYQ4XYQRXYQ4aOXaOTXXD4XXDRX
  XD3a9XiC1XdHYHXdH3aAXo88Xj7Y9Xo81cJXZD1cJXdQ1dTXXK2cTXXQX3XXQ2cTXY0X3XY03bCXY21XY2Y7XY22cJXi6JXk
  N3bCXYA1XYAY7XYA3bLXbN4XbNRXbN3bLXp04Xp0RXp02cJXjFJXkV2cJXjGJXl02cJXk9JXlA2cTXYMX3XYM2bTXWB1XWJ2
  c5XgEVp82c5XkJVmA1d0qB2bTXhD1XoG2c5XhEVqH2aAXoHYHXoH1dMXf32c5XkUVn22aAXiDYHXiD1dLXfE1d0mU2bTXkT1
  XpL1dMXdJ2bTXm61XpV2bTXm81Xq22bTXWE1XWO2bTXWG1XWQ2bTXWI1XWS1dUXaU1dVXaV1d6XgG1aFXgJ1aJXgU1dJXb81
  dJXb91d6XkK1e2XdT1dOXe21dUXbD1dVXbE2c5Xh6VY41d6Xh81dTXbF2c5XhFVgI2aGXoM1XoM1aJXhT1dJXbK2c5XhVVlV
  1d6XkP1dNXbC2c5XiBVY72c5XiHVgN2c5XjEVm21cJXk61dRXbQ1dSXbR1dRXbS1dSXbT1dUXc71dVXc81dOXf72c5XkOVr7
  2c5Xl1Vr82c5Xl6VrB2c5XlGVrE1dUXcF1dVXcG1dUXcJ1dVXcK1aVT2d2yA1-41dMXdK1dLXdL1d6XgR1dLXdM1dMXdN1dN
  Xe11dOXe31d6XhA1cRXe81dHXeA1dIXeD1d6XkQ1e2XeH1aPgK1d6Xi81dNXeI1dHXeK1dIXeL1d6Xl31dMXf41dLXf51dNX
  f61dNXfB1dLXfF1dNXfJ1aVXC1bGR1bGS1bGXg71bGU1aPfR1aFXb71bBhN1aVV1d4pM1d6XhB1aPpN1d6XhI1d6XhJ1aPyJ
  1d6XhS1bKXhU1d6Xi21bGgJ1aPiC1d4Y51d6Xi91aPqO1d6XiA1aPqT1aPY61d4r11d4gL1d6XiF1d6XiG1aPgM1aPyL1d6X
  iJ1d6XiL1d6XiP1d6XiU1d6Xj31d6Xj41d6Xj51aPyM1d4m01d6XjB1d6XjC1aPm11aPzT1d6XjH1aPr21aPY81aPY91d4YA
  1d6XjI1aPgO1aPgP1d4gQ1aPyN1d6XjJ1aPyO1d6XjK1d6XjL1d6XjM1aPyP1d6XjN1d6XjR1d6XjS1d6XjT1aPyQ1d6XjU1
  d6Xk21d6Xk31d6Xk41aPyR1aPyS1aPyT1d6Xk71aPm31aPm41d4m51aPYB1aPgR1aPyU1aPyV1aPz01aPz11aPz21d6XkA1d
  6XkB1d6XkC1aPz31aPz41aPz51aPz61d6XkD1d6XkE1d6XkF1aPz71aPz81aPz91aPm61aPgS1aPzA1aPzB1aPzC1aPzD1aP
  zE1aPzF1d4mN1aPmO1d4r91aPn91aPnC1aPrA1d4nG1d4rC1aPrD1aPnH1aPrF1aPrG1d4rH1aPrI1aPrJ1d4rK1aPrL1aPr
  M1bGXA1bGXB1bGXD1aVXE1d6XkR1d6XkV1d6Xl21d6Xl41d6Xl51d6Xl71d6Xl81d6Xl91d6XlB1d6XlC1d6XlD1d6XlE1d6
  XlF1d6XlH1d6XlI1d6XlJ1d6XlK1d6XlL1d6XlM1d6XlN1d6XlO1d6XlP1d6XlQ1d6XlR1d6XlS1d6XlT1d6XlU1d6XlV1d6
  Xm01d6Xm11d6Xm21d6Xm31d6Xm4"

end ScriptCensus.Grammar.JavaScript
