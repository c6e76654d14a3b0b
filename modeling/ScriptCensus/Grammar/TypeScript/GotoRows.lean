/-!
# The TypeScript goto table

The rows of the goto table, packed.
-/

namespace ScriptCensus.Grammar.TypeScript

/-- The rows of the goto table, as packed numbers. -/
def gotoRows : String :=
  "X_G0YFb5bd51vA5vA1ZiH1vA7F1vA1vB1vB2vA2vA1vA1vA1vA2vA1vA1vA1vA1vA1vA1vA1vA1vA1vA1vA6XfR1XwB1XtA1
  YXN1YXL1bd73YXL1bd72YXL1vB2YXL1vB1YXL1vB1YXL1bd63YXL1XwC1YXN1XfR1XfR1YXN1YwJ1YXN2bd72YXN1YXN1YXN
  1YXN1azS1YXL1YXL2YXL1YXL2XeI4ZpRBXfR3vB2YXN1YXN1YXN1YXN5vB1vB1vB1cI2vB2vB2vB3vBXBiE4azTCF1ZpSY7b
  CZj9X4Xc71Yo71XkV1XpC1XpB1ZpO3XpB1ZpO1bdT1XpB3XpB2XpB2XpB1bmV3XpB1XlG1XpC1XdQ1XdQ1XpC1YzA1XpC2Zp
  O2XpC1XpC1XpC1XpC2YYN1XpB2XpB1XpB2XeI4Zv02ZuQ1ZiM8XdQ5XpC1XpC1XpC1XpC8XpC3YwDGYwE1YwF3Y_56YwN1Yw
  O2YwP1YwN1YwP1YwP7YwP1YwP1YwP2YwP1YwQ1YwP1YwP1YwP1YwP1n61YwP3a_56YwP1YwP1YwN1YwP1YwP1YwN2agAYQb6
  vA5vA1ZiH1vA7H1vA1vB1vB2vA2vA1vA1vA1vA2vA1vA1vA1vA1vA1vA1vA1vA1vA1vA1vA6XfR1XwB1XtA1YXN1YXL1bdE2
  ah81YXL1bdE2YXL1vB2YXL1vB1YXL1vB1YXL1bd63YXL1XwC1YXN1XfR1XfR1YXN1YwJ1YXN2bdE1ah91YXN1YXN1YXN1YXN
  1azS1YXO1YXL2YXL1YXL2XeI4ZpR3ah81ah91ah91ah81ZiJ1ZiJ3XfR3vB2YXN1YXN1YXN1YXN5vB1vB1vB1cI2vB2vB2vB
  3vB1Yr81YrRX9iE4azTCH1ZpS5ahA1ahBYQb6vA5vA1ZiH1vA7J1vA1vB1vB2vA2vA1vA1vA1vA2vA1vA1vA1vA1vA1vA1vA
  1vA1vA1vA1vA6XfR1XwB1XtA1YXN1YXL1bdE2ah81YXL1bdE2YXL1vB2YXL1vB1YXL1vB1YXL1bd63YXL1XwC1YXN1XfR1Xf
  R1YXN1YwJ1YXN2bdE1ah91YXN1YXN1YXN1YXN1azS1YXO1YXL2YXL1YXL2XeI4ZpR3ah81ah91ah91ah81ZiJ1ZiJ3XfR3vB
  2YXN1YXN1YXN1YXN5vB1vB1vB1cI2vB2vB2vB3vB1Yr81YrRX9iE4azTCJ1ZpS5ahA1ahBYQb6vA5vA1ZiH1vA7N1vA1vB1v
  B2vA2vA1vA1vA1vA2vA1vA1vA1vA1vA1vA1vA1vA1vA1vA1vA6XfR1XwB1XtA1YXN1YXL1bdE2ah81YXL1bdE2YXL1vB2YXL
  1vB1YXL1vB1YXL1bd63YXL1XwC1YXN1XfR1XfR1YXN1YwJ1YXN2bdE1awQ1YXN1YXN1YXN1YXN1azS1YXO1YXL2YXL1YXL2X
  eI4ZpR3ah81awQ1awQ1ah81ZiJ1ZiJ3XfR3vB2YXN1YXN1YXN1YXN5vB1vB1vB1cI2vB2vB2vB3vB1Yr81YrRX9iE4azTCN1
  ZpS5awR1ahBYEb6vA5vA1ZiH1vA791vA1vB1vB2vA2vA1vA1vA1vA2vA1vA1vA1vA1vA1vA1vA1vA1vA1vA1vA6XfR1XwB1X
  tA1YXN1YXL1bd73YXL1bd72YXL1vB2YXL1vB1YXL1vB1YXL1bd63YXL1XwC1YXN1XfR1XfR1YXN1YwJ1YXN2bd72YXN1YXN1
  YXN1YXN1azS1YXL1YXL2YXL1YXL2XeI4ZpRBXfR3vB2YXN1YXN1YXN1YXN5vB1vB1vB1cI2vB2vB2vB3vBXBiE4azTC91ZpS
  YEb6vA5vA1ZiH1vA7B1vA1vB1vB2vA2vA1vA1vA1vA2vA1vA1vA1vA1vA1vA1vA1vA1vA1vA1vA6XfR1XwB1XtA1YXN1YXL1
  bd73YXL1bd72YXL1vB2YXL1vB1YXL1vB1YXL1bd63YXL1XwC1YXN1XfR1XfR1YXN1YwJ1YXN2bd72YXN1YXN1YXN1YXN1azS
  1YXL1YXL2YXL1YXL2XeI4ZpRBXfR3vB2YXN1YXN1YXN1YXN5vB1vB1vB1cI2vB2vB2vB3vBXBiE4azTCB1ZpSYEb6vA5vA1Z
  iH1vA7D1vA1vB1vB2vA2vA1vA1vA1vA2vA1vA1vA1vA1vA1vA1vA1vA1vA1vA1vA6XfR1XwB1XtA1YXN1YXL1bd73YXL1bd7
  2YXL1vB2YXL1vB1YXL1vB1YXL1bd63YXL1XwC1YXN1XfR1XfR1YXN1YwJ1YXN2bd72YXN1YXN1YXN1YXN1azS1YXL1YXL2YX
  L1YXL2XeI4ZpRBXfR3vB2YXN1YXN1YXN1YXN5vB1vB1vB1cI2vB2vB2vB3vBXBiE4azTCD1ZpSYEb6vA5vA1ZiH1vA7G1vA1
  vB1vB2vA2vA1vA1vA1vA2vA1vA1vA1vA1vA1vA1vA1vA1vA1vA1vA6XfR1XwB1XtA1YXN1YXL1bd73YXL1bd72YXL1vB2YXL
  1vB1YXL1vB1YXL1bd63YXL1XwC1YXN1XfR1XfR1YXN1YwJ1YXN2bd72YXN1YXN1YXN1YXN1azS1YXL1YXL2YXL1YXL2XeI4Z
  pRBXfR3vB2YXN1YXN1YXN1YXN5vB1vB1vB1cI2vB2vB2vB3vBXBiE4azTCG1ZpSYEb6vA5vA1ZiH1vA7H1vA1vB1vB2vA2vA
  1vA1vA1vA2vA1vA1vA1vA1vA1vA1vA1vA1vA1vA1vA6XfR1XwB1XtA1YXN1YXL1bd73YXL1bd72YXL1vB2YXL1vB1YXL1vB1
  YXL1bd63YXL1XwC1YXN1XfR1XfR1YXN1YwJ1YXN2bd72YXN1YXN1YXN1YXN1azS1YXL1YXL2YXL1YXL2XeI4ZpRBXfR3vB2Y
  XN1YXN1YXN1YXN5vB1vB1vB1cI2vB2vB2vB3vBXBiE4azTCH1ZpSYEb6vA5vA1ZiH1vA7L1vA1vB1vB2vA2vA1vA1vA1vA2v
  A1vA1vA1vA1vA1vA1vA1vA1vA1vA1vA6XfR1XwB1XtA1YXN1YXL1bd73YXL1bd72YXL1vB2YXL1vB1YXL1vB1YXL1bd63YXL
  1XwC1YXN1XfR1XfR1YXN1YwJ1YXN2bd72YXN1YXN1YXN1YXN1azS1YXL1YXL2YXL1YXL2XeI4ZpRBXfR3vB2YXN1YXN1YXN1
  YXN5vB1vB1vB1cI2vB2vB2vB3vBXBiE4azTCL1ZpSYEb6vA5vA1ZiH1vA7J1vA1vB1vB2vA2vA1vA1vA1vA2vA1vA1vA1vA1
  vA1vA1vA1vA1vA1vA1vA6XfR1XwB1XtA1YXN1YXL1bd73YXL1bd72YXL1vB2YXL1vB1YXL1vB1YXL1bd63YXL1XwC1YXN1Xf
  R1XfR1YXN1YwJ1YXN2bd72YXN1YXN1YXN1YXN1azS1YXL1YXL2YXL1YXL2XeI4ZpRBXfR3vB2YXN1YXN1YXN1YXN5vB1vB1v
  B1cI2vB2vB2vB3vBXBiE4azTCJ1ZpSYEb6vA5vA1ZiH1vA7N1vA1vB1vB2vA2vA1vA1vA1vA2vA1vA1vA1vA1vA1vA1vA1vA
  1vA1vA1vA6XfR1XwB1XtA1YXN1YXL1bd73YXL1bd72YXL1vB2YXL1vB1YXL1vB1YXL1bd63YXL1XwC1YXN1XfR1XfR1YXN1Y
  wJ1YXN2bd72YXN1YXN1YXN1YXN1azS1YXL1YXL2YXL1YXL2XeI4ZpRBXfR3vB2YXN1YXN1YXN1YXN5vB1vB1vB1cI2vB2vB2
  vB3vBXBiE4azTCN1ZpSYEb6vA5vA1ZiH1vA7P1vA1vB1vB2vA2vA1vA1vA1vA2vA1vA1vA1vA1vA1vA1vA1vA1vA1vA1vA6X
  fR1XwB1XtA1YXN1YXL1bd73YXL1bd72YXL1vB2YXL1vB1YXL1vB1YXL1bd63YXL1XwC1YXN1XfR1XfR1YXN1YwJ1YXN2bd72
  YXN1YXN1YXN1YXN1azS1YXL1YXL2YXL1YXL2XeI4ZpRBXfR3vB2YXN1YXN1YXN1YXN5vB1vB1vB1cI2vB2vB2vB3vBXBiE4a
  zTCP1ZpSYEb6vA5vA1ZiH1vA7U1vA1vB1vB2vA2vA1vA1vA1vA2vA1vA1vA1vA1vA1vA1vA1vA1vA1vA1vA6XfR1XwB1XtA1
  YXN1YXL1bd73YXL1bd72YXL1vB2YXL1vB1YXL1vB1YXL1bd63YXL1XwC1YXN1XfR1XfR1YXN1YwJ1YXN2bd72YXN1YXN1YXN
  1YXN1azS1YXL1YXL2YXL1YXL2XeI4ZpRBXfR3vB2YXN1YXN1YXN1YXN5vB1vB1vB1cI2vB2vB2vB3vBXBiE4azTCU1ZpSYEb
  6vA5vA1ZiH1vA7R1vA1vB1vB2vA2vA1vA1vA1vA2vA1vA1vA1vA1vA1vA1vA1vA1vA1vA1vA6XfR1XwB1XtA1YXN1YXL1bd7
  3YXL1bd72YXL1vB2YXL1vB1YXL1vB1YXL1bd63YXL1XwC1YXN1XfR1XfR1YXN1YwJ1YXN2bd72YXN1YXN1YXN1YXN1azS1YX
  L1YXL2YXL1YXL2XeI4ZpRBXfR3vB2YXN1YXN1YXN1YXN5vB1vB1vB1cI2vB2vB2vB3vBXBiE4azTCR1ZpSYDb6vA5vA1ZiH1
  vA7bdH1vA1vB1vB2vA2vA1vA1vA1vA2vA1vA1vA1vA1vA1vA1vA1vA1vA1vA1vA6XfR1XwB1XtA1YXN1YXL1bd73YXL1bd72
  YXL1vB2YXL1vB1YXL1vB1YXL1bd63YXL1XwC1YXN1XfR1XfR1YXN1YwJ1YXN2bd72YXN1YXN1YXN1YXN1azS1YXL1YXL2YXL
  1YXL2XeI4ZpRBXfR3vB2YXN1YXN1YXN1YXN5vB1vB1vB1Yg02vB2vB2vB3vBXBiE4azTDZtNYDb6vA5vA1ZiH1vA7vN1vA1v
  B1vB2vA2vA1vA1vA1vA2vA1vA1vA1vA1vA1vA1vA1vA1vA1vA1vA6XfR1XwB1XtA1YXN1YXL1bd73YXL1bd72YXL1vB2YXL1
  vB1YXL1vB1YXL1bd63YXL1XwC1YXN1XfR1XfR1YXN1YwJ1YXN2bd72YXN1YXN1YXN1YXN1azS1YXL1YXL2YXL1YXL2XeI4Zp
  RBXfR3vB2YXN1YXN1YXN1YXN5vB1vB1vB1cI2vB2vB2vB3vBXBiE4azTDZpSYDb6vA5vA1ZiH1vA7vQ1vA1vB1vB2vA2vA1v
  A1vA1vA2vA1vA1vA1vA1vA1vA1vA1vA1vA1vA1vA6XfR1XwB1XtA1YXN1YXL1bd73YXL1bd72YXL1vB2YXL1vB1YXL1vB1YX
  L1bd63YXL1XwC1YXN1XfR1XfR1YXN1YwJ1YXN2bd72YXN1YXN1YXN1YXN1azS1YXL1YXL2YXL1YXL2XeI4ZpRBXfR3vB2YXN
  1YXN1YXN1YXN5vB1vB1vB1cI2vB2vB2vB3vBXBiE4azTDZpSYDb6vA5vA1ZiH1vA7uG1vA1vB1vB2vA2vA1vA1vA1vA2vA1v
  A1vA1vA1vA1vA1vA1vA1vA1vA1vA6XfR1XwB1XtA1YXN1YXL1bd73YXL1bd72YXL1vB2YXL1vB1YXL1vB1YXL1bd63YXL1Xw
  C1YXN1XfR1XfR1YXN1YwJ1YXN2bd72YXN1YXN1YXN1YXN1azS1YXL1YXL2YXL1YXL2XeI4ZpRBXfR3vB2YXN1YXN1YXN1YXN
  5vB1vB1vB1cI2vB2vB2vB3vBXBiE4azTDZpSYDb6vA5vA1ZiH1vA7vU1vA1vB1vB2vA2vA1vA1vA1vA2vA1vA1vA1vA1vA1v
  A1vA1vA1vA1vA1vA6XfR1XwB1XtA1YXN1YXL1bd73YXL1bd72YXL1vB2YXL1vB1YXL1vB1YXL1bd63YXL1XwC1YXN1XfR1Xf
  R1YXN1YwJ1YXN2bd72YXN1YXN1YXN1YXN1azS1YXL1YXL2YXL1YXL2XeI4ZpRBXfR3vB2YXN1YXN1YXN1YXN5vB1vB1vB1cI
  2vB2vB2vB3vBXBiE4azTDZpSYDb6vA5vA1ZiH1vA7vV1vA1vB1vB2vA2vA1vA1vA1vA2vA1vA1vA1vA1vA1vA1vA1vA1vA1v
  A1vA6XfR1XwB1XtA1YXN1YXL1bd73YXL1bd72YXL1vB2YXL1vB1YXL1vB1YXL1bd63YXL1XwC1YXN1XfR1XfR1YXN1YwJ1YX
  N2bd72YXN1YXN1YXN1YXN1azS1YXL1YXL2YXL1YXL2XeI4ZpRBXfR3vB2YXN1YXN1YXN1YXN5vB1vB1vB1cI2vB2vB2vB3vB
  XBiE4azTDZpSYDb6vA5vA1ZiH1vA7wN1vA1vB1vB2vA2vA1vA1vA1vA2vA1vA1vA1vA1vA1vA1vA1vA1vA1vA1vA6XfR1XwB
  1XtA1YXN1YXL1bd73YXL1bd72YXL1vB2YXL1vB1YXL1vB1YXL1bd63YXL1XwC1YXN1XfR1XfR1YXN1YwJ1YXN2bd72YXN1YX
  N1YXN1YXN1azS1YXL1YXL2YXL1YXL2XeI4ZpRBXfR3vB2YXN1YXN1YXN1YXN5vB1vB1vB1cI2vB2vB2vB3vBXBiE4azTDZpS
  YGbCZp7X4XfM1YdN1XkV1XpC1XpB1agK1ahE2XpB1agK1bdT1XpB3XpB2XpB2XpB1bmM3XpB1XlG1XpC1XhE1XhE1XpC1Yz5
  1XpC2agK1awV1XpC1XpC1XpC1XpC2YYN1XpB2XpB1XpB2XeI4acE2acU1ZvL8XhE5XpC1XpC1XpC1XpC8XpC3YwDGZcD1YwF
  3ZqB1aiL1aiL1aiL1aiL1aiL1YwN1YwO2YwP1YwN1YwP1YwP7YwP1YwP1YwP2YwP1YwQ1YwP1YwP1YwP1YwP1lK1YwP3bcS6
  YwP1YwP1YwN1YwP1YwP1YwN2agA7ax01ahHYDb6vA5vA1ZiH1vA7xF1vA1vB1vB2vA2vA1vA1vA1vA2vA1vA1vA1vA1vA1vA
  1vA1vA1vA1vA1vA6XfR1XwB1XtA1YXN1YXL1bd73YXL1bd72YXL1vB2YXL1vB1YXL1vB1YXL1bd63YXL1XwC1YXN1XfR1XfR
  1YXN1YwJ1YXN2bd72YXN1YXN1YXN1YXN1azS1YXL1YXL2YXL1YXL2XeI4ZpRBXfR3vB2YXN1YXN1YXN1YXN5vB1vB1vB1cI2
  vB2vB2vB3vBXBiE4azTDZpSYDb6vA5vA1ZiH1vA7y51vA1vB1vB2vA2vA1vA1vA1vA2vA1vA1vA1vA1vA1vA1vA1vA1vA1vA
  1vA6XfR1XwB1XtA1YXN1YXL1bd73YXL1bd72YXL1vB2YXL1vB1YXL1vB1YXL1bd63YXL1XwC1YXN1XfR1XfR1YXN1YwJ1YXN
  2bd72YXN1YXN1YXN1YXN1azS1YXL1YXL2YXL1YXL2XeI4ZpRBXfR3vB2YXN1YXN1YXN1YXN5vB1vB1vB1cI2vB2vB2vB3vBX
  BiE4azTDZpSYDb6vA5vA1ZiH1vA7yI1vA1vB1vB2vA2vA1vA1vA1vA2vA1vA1vA1vA1vA1vA1vA1vA1vA1vA1vA6XfR1XwB1
  XtA1YXN1YXL1bd73YXL1bd72YXL1vB2YXL1vB1YXL1vB1YXL1bd63YXL1XwC1YXN1XfR1XfR1YXN1YwJ1YXN2bd72YXN1YXN
  1YXN1YXN1azS1YXL1YXL2YXL1YXL2XeI4ZpRBXfR3vB2YXN1YXN1YXN1YXN5vB1vB1vB1cI2vB2vB2vB3vBXBiE4azTDZpSY
  Db6vA5vA1ZiH1vA7yJ1vA1vB1vB2vA2vA1vA1vA1vA2vA1vA1vA1vA1vA1vA1vA1vA1vA1vA1vA6XfR1XwB1XtA1YXN1YXL1
  bd73YXL1bd72YXL1vB2YXL1vB1YXL1vB1YXL1bd63YXL1XwC1YXN1XfR1XfR1YXN1YwJ1YXN2bd72YXN1YXN1YXN1YXN1azS
  1YXL1YXL2YXL1YXL2XeI4ZpRBXfR3vB2YXN1YXN1YXN1YXN5vB1vB1vB1cI2vB2vB2vB3vBXBiE4azTDZpSYDb6vA5vA1ZiH
  1vA7yK1vA1vB1vB2vA2vA1vA1vA1vA2vA1vA1vA1vA1vA1vA1vA1vA1vA1vA1vA6XfR1XwB1XtA1YXN1YXL1bd73YXL1bd72
  YXL1vB2YXL1vB1YXL1vB1YXL1bd63YXL1XwC1YXN1XfR1XfR1YXN1YwJ1YXN2bd72YXN1YXN1YXN1YXN1azS1YXL1YXL2YXL
  1YXL2XeI4ZpRBXfR3vB2YXN1YXN1YXN1YXN5vB1vB1vB1cI2vB2vB2vB3vBXBiE4azTDZpSYDb6vA5vA1ZiH1vA7yR1vA1vB
  1vB2vA2vA1vA1vA1vA2vA1vA1vA1vA1vA1vA1vA1vA1vA1vA1vA6XfR1XwB1XtA1YXN1YXL1bd73YXL1bd72YXL1vB2YXL1v
  B1YXL1vB1YXL1bd63YXL1XwC1YXN1XfR1XfR1YXN1YwJ1YXN2bd72YXN1YXN1YXN1YXN1azS1YXL1YXL2YXL1YXL2XeI4ZpR
  BXfR3vB2YXN1YXN1YXN1YXN5vB1vB1vB1cI2vB2vB2vB3vBXBiE4azTDZpSYDb6vA5vA1ZiH1vA7yS1vA1vB1vB2vA2vA1vA
  1vA1vA2vA1vA1vA1vA1vA1vA1vA1vA1vA1vA1vA6XfR1XwB1XtA1YXN1YXL1bd73YXL1bd72YXL1vB2YXL1vB1YXL1vB1YXL
  1bd63YXL1XwC1YXN1XfR1XfR1YXN1YwJ1YXN2bd72YXN1YXN1YXN1YXN1azS1YXL1YXL2YXL1YXL2XeI4ZpRBXfR3vB2YXN1
  YXN1YXN1YXN5vB1vB1vB1cI2vB2vB2vB3vBXBiE4azTDZpSYDb6vA5vA1ZiH1vA7yT1vA1vB1vB2vA2vA1vA1vA1vA2vA1vA
  1vA1vA1vA1vA1vA1vA1vA1vA1vA6XfR1XwB1XtA1YXN1YXL1bd73YXL1bd72YXL1vB2YXL1vB1YXL1vB1YXL1bd63YXL1XwC
  1YXN1XfR1XfR1YXN1YwJ1YXN2bd72YXN1YXN1YXN1YXN1azS1YXL1YXL2YXL1YXL2XeI4ZpRBXfR3vB2YXN1YXN1YXN1YXN5
  vB1vB1vB1cI2vB2vB2vB3vBXBiE4azTDZpSYDb6vA5vA1ZiH1vA7yU1vA1vB1vB2vA2vA1vA1vA1vA2vA1vA1vA1vA1vA1vA
  1vA1vA1vA1vA1vA6XfR1XwB1XtA1YXN1YXL1bd73YXL1bd72YXL1vB2YXL1vB1YXL1vB1YXL1bd63YXL1XwC1YXN1XfR1XfR
  1YXN1YwJ1YXN2bd72YXN1YXN1YXN1YXN1azS1YXL1YXL2YXL1YXL2XeI4ZpRBXfR3vB2YXN1YXN1YXN1YXN5vB1vB1vB1cI2
  vB2vB2vB3vBXBiE4azTDZpSYDb6vA5vA1ZiH1vA7vN1vA1vB1vB2vA2vA1vA1vA1vA2vA1vA1vA1vA1vA1vA1vA1vA1vA1vA
  1vA6XfR1XwB1XtA1YXN1YXL1bd73YXL1bd72YXL1vB2YXL1vB1YXL1vB1YXL1bd63YXL1XwC1YXN1XfR1XfR1YXN1YwJ1YXN
  2bd72YXN1YXN1YXN1YXN1azS1YXL1YXL2YXL1YXL2XeI4ZpRBXfR3vB2YXN1YXN1YXN1YXN5vB1vB1vB1Yg02vB2vB2vB3vB
  XBiE4azTDZtNYDb6vA5vA1ZiH1vA7vQ1vA1vB1vB2vA2vA1vA1vA1vA2vA1vA1vA1vA1vA1vA1vA1vA1vA1vA1vA6XfR1XwB
  1XtA1YXN1YXL1bd73YXL1bd72YXL1vB2YXL1vB1YXL1vB1YXL1bd63YXL1XwC1YXN1XfR1XfR1YXN1YwJ1YXN2bd72YXN1YX
  N1YXN1YXN1azS1YXL1YXL2YXL1YXL2XeI4ZpRBXfR3vB2YXN1YXN1YXN1YXN5vB1vB1vB1Yg02vB2vB2vB3vBXBiE4azTDZt
  NYDb6vA5vA1ZiH1vA7azE1vA1vB1vB2vA2vA1vA1vA1vA2vA1vA1vA1vA1vA1vA1vA1vA1vA1vA1vA6XfR1XwB1XtA1YXN1Y
  XL1bd73YXL1bd72YXL1vB2YXL1vB1YXL1vB1YXL1bd63YXL1XwC1YXN1XfR1XfR1YXN1YwJ1YXN2bd72YXN1YXN1YXN1YXN1
  azS1YXL1YXL2YXL1YXL2XeI4ZpRBXfR3vB2YXN1YXN1YXN1YXN5vB1vB1vB1Yg02vB2vB2vB3vBXBiE4azTDZtNYDb6vA5vA
  1ZiH1vA7vU1vA1vB1vB2vA2vA1vA1vA1vA2vA1vA1vA1vA1vA1vA1vA1vA1vA1vA1vA6XfR1XwB1XtA1YXN1YXL1bd73YXL1
  bd72YXL1vB2YXL1vB1YXL1vB1YXL1bd63YXL1XwC1YXN1XfR1XfR1YXN1YwJ1YXN2bd72YXN1YXN1YXN1YXN1azS1YXL1YXL
  2YXL1YXL2XeI4ZpRBXfR3vB2YXN1YXN1YXN1YXN5vB1vB1vB1Yg02vB2vB2vB3vBXBiE4azTDZtNYDb6vA5vA1ZiH1vA7vV1
  vA1vB1vB2vA2vA1vA1vA1vA2vA1vA1vA1vA1vA1vA1vA1vA1vA1vA1vA6XfR1XwB1XtA1YXN1YXL1bd73YXL1bd72YXL1vB2
  YXL1vB1YXL1vB1YXL1bd63YXL1XwC1YXN1XfR1XfR1YXN1YwJ1YXN2bd72YXN1YXN1YXN1YXN1azS1YXL1YXL2YXL1YXL2Xe
  I4ZpRBXfR3vB2YXN1YXN1YXN1YXN5vB1vB1vB1Yg02vB2vB2vB3vBXBiE4azTDZtNYDb6vA5vA1ZiH1vA7wN1vA1vB1vB2vA
  2vA1vA1vA1vA2vA1vA1vA1vA1vA1vA1vA1vA1vA1vA1vA6XfR1XwB1XtA1YXN1YXL1bd73YXL1bd72YXL1vB2YXL1vB1YXL1
  vB1YXL1bd63YXL1XwC1YXN1XfR1XfR1YXN1YwJ1YXN2bd72YXN1YXN1YXN1YXN1azS1YXL1YXL2YXL1YXL2XeI4ZpRBXfR3v
  B2YXN1YXN1YXN1YXN5vB1vB1vB1Yg02vB2vB2vB3vBXBiE4azTDZtNYGbCZp7X4XfM1YXR1XkV1XpC1XpB1agK1ahE2XpB1a
  gK1bdT1XpB3XpB2XpB2XpB1bmM3XpB1XlG1XpC1XhE1XhE1XpC1Yz51XpC2agK1ahF1XpC1XpC1XpC1XpC2YYN1XpB2XpB1X
  pB2XeI4acE2acU1ZvL8XhE5XpC1XpC1XpC1XpC8XpC3YwDGZcD1YwF3ZqB1aiL1aiL1aiL1aiL1aiL1YwN1YwO2YwP1YwN1Y
  wP1YwP7YwP1YwP1YwP2YwP1YwQ1YwP1YwP1YwP1YwP1lK1YwP3bcS6YwP1YwP1YwN1YwP1YwP1YwN2agA7ahG1ahHYDb6vA5
  vA1ZiH1vA7xF1vA1vB1vB2vA2vA1vA1vA1vA2vA1vA1vA1vA1vA1vA1vA1vA1vA1vA1vA6XfR1XwB1XtA1YXN1YXL1bd73YX
  L1bd72YXL1vB2YXL1vB1YXL1vB1YXL1bd63YXL1XwC1YXN1XfR1XfR1YXN1YwJ1YXN2bd72YXN1YXN1YXN1YXN1azS1YXL1Y
  XL2YXL1YXL2XeI4ZpRBXfR3vB2YXN1YXN1YXN1YXN5vB1vB1vB1Yg02vB2vB2vB3vBXBiE4azTDZtNYDb6vA5vA1ZiH1vA7y
  51vA1vB1vB2vA2vA1vA1vA1vA2vA1vA1vA1vA1vA1vA1vA1vA1vA1vA1vA6XfR1XwB1XtA1YXN1YXL1bd73YXL1bd72YXL1v
  B2YXL1vB1YXL1vB1YXL1bd63YXL1XwC1YXN1XfR1XfR1YXN1YwJ1YXN2bd72YXN1YXN1YXN1YXN1azS1YXL1YXL2YXL1YXL2
  XeI4ZpRBXfR3vB2YXN1YXN1YXN1YXN5vB1vB1vB1Yg02vB2vB2vB3vBXBiE4azTDZtNYDb6vA5vA1ZiH1vA7yI1vA1vB1vB2
  vA2vA1vA1vA1vA2vA1vA1vA1vA1vA1vA1vA1vA1vA1vA1vA6XfR1XwB1XtA1YXN1YXL1bd73YXL1bd72YXL1vB2YXL1vB1YX
  L1vB1YXL1bd63YXL1XwC1YXN1XfR1XfR1YXN1YwJ1YXN2bd72YXN1YXN1YXN1YXN1azS1YXL1YXL2YXL1YXL2XeI4ZpRBXfR
  3vB2YXN1YXN1YXN1YXN5vB1vB1vB1Yg02vB2vB2vB3vBXBiE4azTDZtNYDb6vA5vA1ZiH1vA7yJ1vA1vB1vB2vA2vA1vA1vA
  1vA2vA1vA1vA1vA1vA1vA1vA1vA1vA1vA1vA6XfR1XwB1XtA1YXN1YXL1bd73YXL1bd72YXL1vB2YXL1vB1YXL1vB1YXL1bd
  63YXL1XwC1YXN1XfR1XfR1YXN1YwJ1YXN2bd72YXN1YXN1YXN1YXN1azS1YXL1YXL2YXL1YXL2XeI4ZpRBXfR3vB2YXN1YXN
  1YXN1YXN5vB1vB1vB1Yg02vB2vB2vB3vBXBiE4azTDZtNYDb6vA5vA1ZiH1vA7yK1vA1vB1vB2vA2vA1vA1vA1vA2vA1vA1v
  A1vA1vA1vA1vA1vA1vA1vA1vA6XfR1XwB1XtA1YXN1YXL1bd73YXL1bd72YXL1vB2YXL1vB1YXL1vB1YXL1bd63YXL1XwC1Y
  XN1XfR1XfR1YXN1YwJ1YXN2bd72YXN1YXN1YXN1YXN1azS1YXL1YXL2YXL1YXL2XeI4ZpRBXfR3vB2YXN1YXN1YXN1YXN5vB
  1vB1vB1Yg02vB2vB2vB3vBXBiE4azTDZtNYDb6vA5vA1ZiH1vA7yR1vA1vB1vB2vA2vA1vA1vA1vA2vA1vA1vA1vA1vA1vA1
  vA1vA1vA1vA1vA6XfR1XwB1XtA1YXN1YXL1bd73YXL1bd72YXL1vB2YXL1vB1YXL1vB1YXL1bd63YXL1XwC1YXN1XfR1XfR1
  YXN1YwJ1YXN2bd72YXN1YXN1YXN1YXN1azS1YXL1YXL2YXL1YXL2XeI4ZpRBXfR3vB2YXN1YXN1YXN1YXN5vB1vB1vB1Yg02
  vB2vB2vB3vBXBiE4azTDZtNYDb6vA5vA1ZiH1vA7yS1vA1vB1vB2vA2vA1vA1vA1vA2vA1vA1vA1vA1vA1vA1vA1vA1vA1vA
  1vA6XfR1XwB1XtA1YXN1YXL1bd73YXL1bd72YXL1vB2YXL1vB1YXL1vB1YXL1bd63YXL1XwC1YXN1XfR1XfR1YXN1YwJ1YXN
  2bd72YXN1YXN1YXN1YXN1azS1YXL1YXL2YXL1YXL2XeI4ZpRBXfR3vB2YXN1YXN1YXN1YXN5vB1vB1vB1Yg02vB2vB2vB3vB
  XBiE4azTDZtNYDb6vA5vA1ZiH1vA7yT1vA1vB1vB2vA2vA1vA1vA1vA2vA1vA1vA1vA1vA1vA1vA1vA1vA1vA1vA6XfR1XwB
  1XtA1YXN1YXL1bd73YXL1bd72YXL1vB2YXL1vB1YXL1vB1YXL1bd63YXL1XwC1YXN1XfR1XfR1YXN1YwJ1YXN2bd72YXN1YX
  N1YXN1YXN1azS1YXL1YXL2YXL1YXL2XeI4ZpRBXfR3vB2YXN1YXN1YXN1YXN5vB1vB1vB1Yg02vB2vB2vB3vBXBiE4azTDZt
  NYDb6vA5vA1ZiH1vA7yU1vA1vB1vB2vA2vA1vA1vA1vA2vA1vA1vA1vA1vA1vA1vA1vA1vA1vA1vA6XfR1XwB1XtA1YXN1YX
  L1bd73YXL1bd72YXL1vB2YXL1vB1YXL1vB1YXL1bd63YXL1XwC1YXN1XfR1XfR1YXN1YwJ1YXN2bd72YXN1YXN1YXN1YXN1a
  zS1YXL1YXL2YXL1YXL2XeI4ZpRBXfR3vB2YXN1YXN1YXN1YXN5vB1vB1vB1Yg02vB2vB2vB3vBXBiE4azTDZtNYGbCZp7X4X
  fM1YdN1XkV1XpC1XpB1agK1ahE2XpB1agK1bdT1XpB3XpB2XpB2XpB1bmM3XpB1XlG1XpC1XhE1XhE1XpC1Yz51XpC2agK1a
  wV1XpC1XpC1XpC1XpC2YYN1XpB2XpB1XpB2XeI4acE2acU1ZvL8XhE5XpC1XpC1XpC1XpC8XpC3YwDGZcD1YwF3ZqB1ay21a
  y21ay21ay21ay21YwN1YwO2YwP1YwN1YwP1YwP7YwP1YwP1YwP2YwP1YwQ1YwP1YwP1YwP1YwP1lK1YwP3bcS6YwP1YwP1Yw
  N1YwP1YwP1YwN2agA7ax01ahHXCbCZiHX4XfD1Yn51Xp91XpC1YXL1bgT3YXL1bgT2YXL3YXL2YXL2YXL1bd63YXL1Yp51Xp
  C1XfD1XfD1XpC1YzA1XpC2bgT2XpC1XpC1XpC1XpC2YXL1YXL2YXL1YXL2XeI4ZpRBXfD5XpC1XpC1XpC1XpC8XpCXKn64az
  TDacR5ai31ai4XCbCZiHX4XfD1Yn51Xp91XpC1YXL1bgT3YXL1bgT2YXL3YXL2YXL2YXL1bd63YXL1Yp51XpC1XfD1XfD1Xp
  C1YzA1XpC2bgT2XpC1XpC1XpC1XpC2YXL1YXL2YXL1YXL2XeI4ZpRBXfD5XpC1XpC1XpC1XpC8XpCXKn64azTDacR5ax51ai
  4XCbCZo6X4Xc71Yo71XkV1XpC1XpB1ZpO3XpB1ZpO2XpB3XpB2XpB2XpB1bmV3XpB1XlG1XpC1XdQ1XdQ1XpC1YzA1XpC2Zp
  O2XpC1XpC1XpC1XpC2XpB1XpB2XpB1XpB2XeI4ZpR2ZuQ1ZiM8XdQ5XpC1XpC1XpC1XpC8XpCXKn64azTDagAXCbCZo6X4Xc
  71Yo71XkV1XpC1XpB1ZpO3XpB1ZpO2XpB3XpB2XpB2XpB1bmV3XpB1XlG1XpC1XdQ1XdQ1XpC1YzA1XpC2ZpO2XpC1XpC1Xp
  C1XpC2XpB1XpB2XpB1XpB2XeI4ZpR2ZvC1ZiM8XdQ5XpC1XpC1XpC1XpC8XpCXKn64azTDagAXCbCZo6X4Xc71Yo71XkV1Xp
  C1XpB1ZpO3XpB1ZpO2XpB3XpB2XpB2XpB1bmV3XpB1XlG1XpC1XdQ1XdQ1XpC1YzA1XpC2ZpO2XpC1XpC1XpC1XpC2XpB1Xp
  B2XpB1XpB2XeI4ZpR2ZvD1ZiM8XdQ5XpC1XpC1XpC1XpC8XpCXKn64azTDagAYEbCZoOX4XgV1Xv81XkV1XpC1XpB1ZuC3Xp
  B1ZuC1bdT1XpB3XpB2XpB2XpB1bgS1ahD2XpB1XlG1XpC1XfS1XfS1XpC1Yz01XpC2ZuC2XpC1XpC1XpC1XpC1biE1Yd31Xp
  B2XpB1XpB2XeI4Zv02ZuD1ZiM8XfS5XpC1XpC1XpC1XpC8XpC3YwD7eJ1fA1ahD1ahD1ZiN5YwE1YwF3adH6YwN1YwO2YwP1
  YwN1YwP1YwP7YwP1YwP1YwP2YwP1YwQ1YwP1YwP1YwP1YwP1jN1YwP3a_56YwP1YwP1YwN1YwP1YwP1YwN2e4XCbCZo6X4Xc
  71Yo71XkV1XpC1XpB1ZpO3XpB1ZpO2XpB3XpB2XpB2XpB1bmV3XpB1XlG1XpC1XdQ1XdQ1XpC1YzA1XpC2ZpO2XpC1XpC1Xp
  C1XpC2XpB1XpB2XpB1XpB2XeI4ZpR2Zw51ZiM8XdQ5XpC1XpC1XpC1XpC8XpCXKn64azTDagAXCbCZo6X4Xc71Yo71XkV1Xp
  C1XpB1ZpO3XpB1ZpO2XpB3XpB2XpB2XpB1bmV3XpB1XlG1XpC1XdQ1XdQ1XpC1YzA1XpC2ZpO2XpC1XpC1XpC1XpC2XpB1Xp
  B2XpB1XpB2XeI4ZpR2Zw61ZiM8XdQ5XpC1XpC1XpC1XpC8XpCXKn64azTDagAXCbCZo6X4Xc71Yo71XkV1XpC1XpB1ZpO3Xp
  B1ZpO2XpB3XpB2XpB2XpB1bmV3XpB1XlG1XpC1XdQ1XdQ1XpC1YzA1XpC2ZpO2XpC1XpC1XpC1XpC2XpB1XpB2XpB1XpB2Xe
  I4ZpR2Zw81ZiM8XdQ5XpC1XpC1XpC1XpC8XpCXKn64azTDagAXCbCZo6X4Xc71Yo71XkV1XpC1XpB1ZpO3XpB1ZpO2XpB3Xp
  B2XpB2XpB1bmV3XpB1XlG1XpC1XdQ1XdQ1XpC1YzA1XpC2ZpO2XpC1XpC1XpC1XpC2XpB1XpB2XpB1XpB2XeI4ZpR2ZwN1Zi
  M8XdQ5XpC1XpC1XpC1XpC8XpCXKn64azTDagAYEbCZoOX4XgV1XtC1XkV1XpC1XpB1ZuC3XpB1ZuC1bdT1XpB3XpB2XpB2Xp
  B1bgS1ahD2XpB1XlG1XpC1XfS1XfS1XpC1Yz01XpC2ZuC2XpC1XpC1XpC1XpC1bdG1Yd31XpB2XpB1XpB2XeI4Zv02ZuD1Zi
  M8XfS5XpC1XpC1XpC1XpC8XpC3YwD7eJ1fA1ahD1ahD1ZiN5YwE1YwF3adH6YwN1YwO2YwP1YwN1YwP1YwP7YwP1YwP1YwP2
  YwP1YwQ1YwP1YwP1YwP1YwP1jN1YwP3a_56YwP1YwP1YwN1YwP1YwP1YwN2e4YEbCZoOX4XgV1Xv81XkV1XpC1XpB1ZuC3Xp
  B1ZuC1bdT1XpB3XpB2XpB2XpB1bgS1ahD2XpB1XlG1XpC1XfS1XfS1XpC1Yz01XpC2ZuC2XpC1XpC1XpC1XpC1biE1Yd31Xp
  B2XpB1XpB2XeI4Zv02ZuD1ZiM8XfS5XpC1XpC1XpC1XpC8XpC3YwD7eJ1fA1ahD1ahD1ZiN5YwE1YwF3afE6YwN1YwO2YwP1
  YwN1YwP1YwP7YwP1YwP1YwP2YwP1YwQ1YwP1YwP1YwP1YwP1jN1YwP3a_56YwP1YwP1YwN1YwP1YwP1YwN2e4YDbCZj9X4Xc
  71Yo71XkV1XpC1XpB1ZpO3XpB1ZpO1bdT1XpB3XpB2XpB2XpB1bmV1ahD2XpB1XlG1XpC1XdQ1XdQ1XpC1YzA1XpC2ZpO2Xp
  C1XpC1XpC1XpC2YYN1XpB2XpB1XpB2XeI4Zv02ZuD1ZiM8XdQ5XpC1XpC1XpC1XpC8XpC3YwD7eJ1fA1ahD1ahD1ZiN5YwE1
  YwF3adH6YwN1YwO2YwP1YwN1YwP1YwP7YwP1YwP1YwP2YwP1YwQ1YwP1YwP1YwP1YwP1n61YwP3a_56YwP1YwP1YwN1YwP1Y
  wP1YwN2e4XAbCZo6X4Xc71Yo71XkG1XpC1XpB1bgT3XpB1bgT2XpB3XpB2XpB2XpB1bmV3XpB1XlG1XpC1Xc71Xc71XpC1Yz
  A1XpC2bgT2XpC1XpC1XpC1XpC2XpB1XpB2XpB1XpB2XeI4ZpRBXc75XpC1XpC1XpC1XpC8XpCXKn64azTDagAYDbCZj9X4Xc
  71Yo71XkV1XpC1XpB1ZpO3XpB1ZpO1bdT1XpB3XpB2XpB2XpB1bmV1ahD2XpB1XlG1XpC1XdQ1XdQ1XpC1YzA1XpC2ZpO2Xp
  C1XpC1XpC1XpC2YYN1XpB2XpB1XpB2XeI4Zv02ZuD1ZiM8XdQ5XpC1XpC1XpC1XpC8XpC3YwD7eJ1fA1ahD1ahD1ZiN5YwE1
  YwF3af46YwN1YwO2YwP1YwN1YwP1YwP7YwP1YwP1YwP2YwP1YwQ1YwP1YwP1YwP1YwP1n61YwP3a_56YwP1YwP1YwN1YwP1Y
  wP1YwN2e4YDbCZj9X4Xc71Yo71XkV1XpC1XpB1ZpO3XpB1ZpO1bdT1XpB3XpB2XpB2XpB1bmV1ahD2XpB1XlG1XpC1XdQ1Xd
  Q1XpC1YzA1XpC2ZpO2XpC1XpC1XpC1XpC2YYN1XpB2XpB1XpB2XeI4Zv02ZuD1ZiM8XdQ5XpC1XpC1XpC1XpC8XpC3YwD7eJ
  1fA1ahD1ahD1ZiN5YwE1YwF3afE6YwN1YwO2YwP1YwN1YwP1YwP7YwP1YwP1YwP2YwP1YwQ1YwP1YwP1YwP1YwP1n61YwP3a
  _56YwP1YwP1YwN1YwP1YwP1YwN2e4YDbCZj9X4Xc71Yo71XkV1XpC1XpB1ZpO3XpB1ZpO1bdT1XpB3XpB2XpB2XpB1bmV1ah
  D2XpB1XlG1XpC1XdQ1XdQ1XpC1YzA1XpC2ZpO2XpC1XpC1XpC1XpC2YYN1XpB2XpB1XpB2XeI4Zv02ZuD1ZiM8XdQ5XpC1Xp
  C1XpC1XpC8XpC3YwD7eJ1fA1ahD1ahD1ZiN5YwE1YwF3afM6YwN1YwO2YwP1YwN1YwP1YwP7YwP1YwP1YwP2YwP1YwQ1YwP1
  YwP1YwP1YwP1n61YwP3a_56YwP1YwP1YwN1YwP1YwP1YwN2e4YDbCZj9X4Xc71Yo71XkV1XpC1XpB1ZpO3XpB1ZpO1bdT1Xp
  B3XpB2XpB2XpB1bmV1ahD2XpB1XlG1XpC1XdQ1XdQ1XpC1YzA1XpC2ZpO2XpC1XpC1XpC1XpC2YYN1XpB2XpB1XpB2XeI4Zv
  02ZuD1ZiM8XdQ5XpC1XpC1XpC1XpC8XpC3YwD7eJ1fA1ahD1ahD1ZiN5YwE1YwF3afU6YwN1YwO2YwP1YwN1YwP1YwP7YwP1
  YwP1YwP2YwP1YwQ1YwP1YwP1YwP1YwP1n61YwP3a_56YwP1YwP1YwN1YwP1YwP1YwN2e4XAbCZo6X4Xc71Yo71XkG1XpC1Xp
  B1bgT3XpB1bgT2XpB3XpB2XpB2XpB1bmM3XpB1XlG1XpC1Xc71Xc71XpC1YzA1XpC2bgT2XpC1XpC1XpC1XpC2XpB1XpB2Xp
  B1XpB2XeI4ZvMBXc75XpC1XpC1XpC1XpC8XpCXKn64bWFDagAXAbCZo6X4Xc71Yo71XkG1XpC1XpB1bgT3XpB1bgT2XpB3Xp
  B2XpB2XpB1bmM3XpB1XlG1XpC1Xc71Xc71XpC1YzA1XpC2bgT2XpC1XpC1XpC1XpC2XpB1XpB2XpB1XpB2XeI4ZpRBXc75Xp
  C1XpC1XpC1XpC8XpCXKn64azTDagAXAbCZiHX4XfD1Yn51Xp91XpC1YXL1bgT3YXL1bgT2YXL3YXL2YXL2YXL1bd63YXL1Yp
  51XpC1XfD1XfD1XpC1YzA1XpC2bgT2XpC1XpC1XpC1XpC2YXL1YXL2YXL1YXL2XeI4ZpRBXfD5XpC1XpC1XpC1XpC8XpCXKn
  64azTDacRXAbCZo6X4Xc71Yo71XkG1XpC1XpB1bgT3XpB1bgT2XpB3XpB2XpB2XpB1bgS3XpB1XlG1XpC1Xc71Xc71XpC1Yz
  A1XpC2bgT2XpC1XpC1XpC1XpC2XpB1XpB2XpB1XpB2XeI4ZpRBXc75XpC1XpC1XpC1XpC8XpCXKn64azTDagAXAbCZo6X4Xc
  71Yo71XkG1XpC1XpB1bgT3XpB1bgT2XpB3XpB2XpB2XpB1bmV3XpB1XlG1XpC1Xc71Xc71XpC1YzA1XpC2bgT2XpC1XpC1Xp
  C1XpC2XpB1XpB2XpB1XpB2XeI4ZvMBXc75XpC1XpC1XpC1XpC8XpCXKn64bWFDagAXAbCZiHX4XfD1Yn51Xp91XpC1YXL1bg
  T3YXL1bgT2YXL3YXL2YXL2YXL1bd63YXL1Yp51XpC1XfD1XfD1XpC1YzA1XpC2bgT2XpC1XpC1XpC1XpC2YXL1YXL2YXL1YX
  L2XeI4ZvMBXfD5XpC1XpC1XpC1XpC8XpCXKn64bWFDacRXAbCZo6X4Xc71Yo71XkG1XpC1XpB1bgT3XpB1bgT2XpB3XpB2Xp
  B2XpB1bgS3XpB1XlG1XpC1Xc71Xc71XpC1YzA1XpC2bgT2XpC1XpC1XpC1XpC2XpB1XpB2XpB1XpB2XeI4ZvMBXc75XpC1Xp
  C1XpC1XpC8XpCXKn64bWFDagAXAbCZiHX4XfD1Yn51Xp91XpC1YXL1bgT3YXL1bgT2YXL3YXL2YXL2YXL1boS3YXL1Yp51Xp
  C1XfD1XfD1XpC1YzA1XpC2bgT2XpC1XpC1XpC1XpC2YXL1YXL2YXL1YXL2XeI4ZpRBXfD5XpC1XpC1XpC1XpC8XpCXKn64az
  TDacRXAbCZiHX4XfD1Yn51Xp91XpC1YXL1bgT3YXL1bgT2YXL3YXL2YXL2YXL1boS3YXL1Yp51XpC1XfD1XfD1XpC1YzA1Xp
  C2bgT2XpC1XpC1XpC1XpC2YXL1YXL2YXL1YXL2XeI4ZvMBXfD5XpC1XpC1XpC1XpC8XpCXKn64bWFDacRXAbCZo6X4Xc71Yo
  71XkG1XpC1XpB1bgT3XpB1bgT2XpB3XpB2XpB2XpB1bnM3XpB1XlG1XpC1Xc71Xc71XpC1YzA1XpC2bgT2XpC1XpC1XpC1Xp
  C2XpB1XpB2XpB1XpB2XeI4ZpRBXc75XpC1XpC1XpC1XpC8XpCXKn64azTDagAXAbCZo6X4Xc71Yo71XkG1XpC1XpB1bgT3Xp
  B1bgT2XpB3XpB2XpB2XpB1bmM3XpB1XlG1XpC1Xc71Xc71XpC1YzA1XpC2bgT2XpC1XpC1XpC1XpC2XpB1XpB2XpB1XpB2Xe
  I4aaUBXc75XpC1XpC1XpC1XpC8XpCXKn64bc9DagAXAbCZiHX4XfD1Yn51Xp91XpC1YXL1bgT3YXL1bgT2YXL3YXL2YXL2YX
  L1bo33YXL1Yp51XpC1XfD1XfD1XpC1YzA1XpC2bgT2XpC1XpC1XpC1XpC2YXL1YXL2YXL1YXL2XeI4ZpRBXfD5XpC1XpC1Xp
  C1XpC8XpCXKn64azTDacRXAbCZiHX4XfD1Yn51Xp91XpC1YXL1bgT3YXL1bgT2YXL3YXL2YXL2YXL1bo33YXL1Yp51XpC1Xf
  D1XfD1XpC1YzA1XpC2bgT2XpC1XpC1XpC1XpC2YXL1YXL2YXL1YXL2XeI4ZvMBXfD5XpC1XpC1XpC1XpC8XpCXKn64bWFDac
  RXAbCZo6X4Xc71Yo71XkG1XpC1XpB1bgT3XpB1bgT2XpB3XpB2XpB2XpB1bmM3XpB1XlG1XpC1Xc71Xc71XpC1YzA1XpC2bg
  T2XpC1XpC1XpC1XpC2XpB1XpB2XpB1XpB2XeI4acGBXc75XpC1XpC1XpC1XpC8XpCXKn64bcUDagAXAbCZo6X4Xc71Yo71Xk
  G1XpC1XpB1bgT3XpB1bgT2XpB3XpB2XpB2XpB1bn73XpB1XlG1XpC1Xc71Xc71XpC1YzA1XpC2bgT2XpC1XpC1XpC1XpC2Xp
  B1XpB2XpB1XpB2XeI4ZvMBXc75XpC1XpC1XpC1XpC8XpCXKn64bWFDagAXAbCZo6X4Xc71Yo71XkG1XpC1XpB1bgT3XpB1bg
  T2XpB3XpB2XpB2XpB1bn73XpB1XlG1XpC1Xc71Xc71XpC1YzA1XpC2bgT2XpC1XpC1XpC1XpC2XpB1XpB2XpB1XpB2XeI4Zp
  RBXc75XpC1XpC1XpC1XpC8XpCXKn64azTDagAXAbCZo6X4Xc71Yo71XkG1XpC1XpB1bgT3XpB1bgT2XpB3XpB2XpB2XpB1bn
  F3XpB1XlG1XpC1Xc71Xc71XpC1YzA1XpC2bgT2XpC1XpC1XpC1XpC2XpB1XpB2XpB1XpB2XeI4ZvMBXc75XpC1XpC1XpC1Xp
  C8XpCXKn64bWFDagAXAbCZo6X4Xc71Yo71XkG1XpC1XpB1bgT3XpB1bgT2XpB3XpB2XpB2XpB1bnM3XpB1XlG1XpC1Xc71Xc
  71XpC1YzA1XpC2bgT2XpC1XpC1XpC1XpC2XpB1XpB2XpB1XpB2XeI4ZvMBXc75XpC1XpC1XpC1XpC8XpCXKn64bWFDagAXAb
  CZo6X4Xc71Yo71XkG1XpC1XpB1bgT3XpB1bgT2XpB3XpB2XpB2XpB1bnS3XpB1XlG1XpC1Xc71Xc71XpC1YzA1XpC2bgT2Xp
  C1XpC1XpC1XpC2XpB1XpB2XpB1XpB2XeI4ZvMBXc75XpC1XpC1XpC1XpC8XpCXKn64bWFDagAXAbCZo6X4Xc71Yo71XkG1Xp
  C1XpB1bgT3XpB1bgT2XpB3XpB2XpB2XpB1bnF3XpB1XlG1XpC1Xc71Xc71XpC1YzA1XpC2bgT2XpC1XpC1XpC1XpC2XpB1Xp
  B2XpB1XpB2XeI4ZpRBXc75XpC1XpC1XpC1XpC8XpCXKn64azTDagAXAbCZo6X4Xc71Yo71XkG1XpC1XpB1bgT3XpB1bgT2Xp
  B3XpB2XpB2XpB1bnS3XpB1XlG1XpC1Xc71Xc71XpC1YzA1XpC2bgT2XpC1XpC1XpC1XpC2XpB1XpB2XpB1XpB2XeI4ZpRBXc
  75XpC1XpC1XpC1XpC8XpCXKn64azTDagAY8bCZp1X4XfM1YfL1XkV1XpC1XpB1agK1a_S2XpB1agK1bmT1XpB3XpB2XpB2Xp
  B1bmM3XpB1XlG1XpC1XhE1XhE1XpC1Yz51XpC2agK2XpC1XpC1XpC1XpC2YWG1XpB2XpB1XpB2XeI4aaO2aj61ZiM8XhE5Xp
  C1XpC1XpC1XpC8XpC3Y_PGY_O1ZZA3ZbV6ZZG1ZZH2ZZI1ZZG1ZZI1ZZI7ZZI1ZZI1ZZI2ZZI1ZZJ1ZZI1ZZI1ZZI1ZZI1lK
  1ZZI3bc66ZZI1ZZI1ZZG1ZZI1ZZI1ZZG2agAY6bCZj9X4XfM1YYO1XkV1XpC1XpB1boQ3XpB1boQ1bdT1XpB3XpB2XpB2XpB
  1bmM3XpB1XlG1XpC1XfM1XfM1XpC1Yz51XpC2boQ2XpC1XpC1XpC1XpC1beS1Yd31XpB2XpB1XpB2XeI4Zv0BXfM5XpC1XpC
  1XpC1XpC8XpC3YwDGYwE1YwF3aiM6YwN1ZvP2YwP1ae11YwP1YwP7YwP1YwP1YwP2YwP1YwQ1YwP1YwP1YwP1YwP1lK1YwP3
  a_56YwP1YwP1YwN1YwP1YwP1YwN2agAY5bCZoCX4XfR1XtM1XtA1YXN1YXL1bd73YXL1bd71bdT1YXL3YXL2YXL2YXL1bd63
  YXL1XwC1YXN1XfR1XfR1YXN1YwJ1YXN2bd72YXN1YXN1YXN1YXN2Xy81YXL2YXL1YXL2XeI4Zv0BXfR5YXN1YXN1YXN1YXN8
  YXN3YwDGYwE1YwF3ZsF6YwN1YwO2YwP1YwN1YwP1YwP7YwP1YwP1YwP2YwP1YwQ1YwP1YwP1YwP1YwP1iE1YwP3a_56YwP1Y
  wP1YwN1YwP1YwP1YwN2acRY5bCZoRX4Xc71Yo71XkV1XpC1XpB1ZpJ3XpB1ZpJ1bdT1XpB3XpB2XpB2XpB1bmV3XpB1XlG1X
  pC1Xj61Xj61XpC1YzA1XpC2ZpJ2XpC1XpC1XpC1XpC2YlQ1XpB2XpB1XpB2XeI4Zv0BXj65XpC1XpC1XpC1XpC8XpC3YwDGY
  wE1YwF3ZvO6YwN1YwO2YwP1YwN1YwP1YwP7YwP1YwP1YwP2YwP1YwQ1YwP1YwP1YwP1YwP1n61YwP3a_56YwP1YwP1YwN1Yw
  P1YwP1YwN2agAY5bCZj9X4XfM1YY51XkV1XpC1XpB1ZuL3XpB1ZuL1bdT1XpB3XpB2XpB2XpB1bmM3XpB1XlG1XpC1XfV1Xf
  V1XpC1Yz51XpC2ZuL2XpC1XpC1XpC1XpC2YYN1XpB2XpB1XpB2XeI4Zv0BXfV5XpC1XpC1XpC1XpC8XpC3YwDGYwE1YwF3Zv
  O6YwN1YwO2YwP1YwN1YwP1YwP7YwP1YwP1YwP2YwP1YwQ1YwP1YwP1YwP1YwP1lK1YwP3a_56YwP1YwP1YwN1YwP1YwP1YwN
  2agAY5bCZoOX4XgV1XyR1XkV1XpC1XpB1bmN3XpB1bmN1bdT1XpB3XpB2XpB2XpB1bgS3XpB1XlG1XpC1XgV1XgV1XpC1Yz0
  1XpC2bmN2XpC1XpC1XpC1XpC2Xr31XpB2XpB1XpB2XeI4Zv0BXgV5XpC1XpC1XpC1XpC8XpC3YwDGYwE1YwF3Zt36YwN1YwO
  2YwP1YwN1YwP1YwP7YwP1YwP1YwP2YwP1YwQ1YwP1YwP1YwP1YwP1jN1YwP3a_56YwP1YwP1YwN1YwP1YwP1YwN2agAY5bCZ
  oTX4XhN1YdU1XtA1YXN1YXL1bo43YXL1bo41bdT1YXL3YXL2YXL2YXL1bo33YXL1XwC1YXN1XhN1XhN1YXN1YzN1YXN2bo42
  YXN1YXN1YXN1YXN2Yh31YXL2YXL1YXL2XeI4Zv0BXhN5YXN1YXN1YXN1YXN8YXN3YwDGYwE1YwF3ZsF6YwN1YwO2YwP1YwN1
  YwP1YwP7YwP1YwP1YwP2YwP1YwQ1YwP1YwP1YwP1YwP1kR1YwP3a_56YwP1YwP1YwN1YwP1YwP1YwN2acRY5bCZj9X4XfM1X
  sE1XkV1XpC1XpB1boQ3XpB1boQ1bdT1XpB3XpB2XpB2XpB1bmM3XpB1XlG1XpC1XfM1XfM1XpC1Yz51XpC2boQ2XpC1XpC1X
  pC1XpC2Xr31XpB2XpB1XpB2XeI4Zv0BXfM5XpC1XpC1XpC1XpC8XpC3YwDGYwE1YwF3Zt36YwN1YwO2YwP1YwN1YwP1YwP7Y
  wP1YwP1YwP2YwP1YwQ1YwP1YwP1YwP1YwP1lK1YwP3a_56YwP1YwP1YwN1YwP1YwP1YwN2agAY5bCZoRX4Xc71Ym41XkV1Xp
  C1XpB1bgT3XpB1bgT1bdT1XpB3XpB2XpB2XpB1bmV3XpB1XlG1XpC1Xc71Xc71XpC1YzA1XpC2bgT2XpC1XpC1XpC1XpC2Yc
  U1XpB2XpB1XpB2XeI4Zv0BXc75XpC1XpC1XpC1XpC8XpC3YwDGYwE1YwF3Zt36YwN1YwO2YwP1YwN1YwP1YwP7YwP1YwP1Yw
  P2YwP1YwQ1YwP1YwP1YwP1YwP1n61YwP3a_56YwP1YwP1YwN1YwP1YwP1YwN2agAY5bCZoRX4XjA1YhM1XkV1XpC1XpB1bp5
  3XpB1bp51bdT1XpB3XpB2XpB2XpB1bnF3XpB1XlG1XpC1XjA1XjA1XpC1YzK1XpC2bp52XpC1XpC1XpC1XpC2YcU1XpB2XpB
  1XpB2XeI4Zv0BXjA5XpC1XpC1XpC1XpC8XpC3YwDGYwE1YwF3Zt36YwN1YwO2YwP1YwN1YwP1YwP7YwP1YwP1YwP2YwP1YwQ
  1YwP1YwP1YwP1YwP1oP1YwP3a_56YwP1YwP1YwN1YwP1YwP1YwN2agAY5bCZoVX4XjB1YiG1XkV1XpC1XpB1bp73XpB1bp71
  bdT1XpB3XpB2XpB2XpB1bnM3XpB1XlG1XpC1XjB1XjB1XpC1YzL1XpC2bp72XpC1XpC1XpC1XpC2YcU1XpB2XpB1XpB2XeI4
  Zv0BXjB5XpC1XpC1XpC1XpC8XpC3YwDGYwE1YwF3Zt36YwN1YwO2YwP1YwN1YwP1YwP7YwP1YwP1YwP2YwP1YwQ1YwP1YwP1
  YwP1YwP1pI1YwP3a_56YwP1YwP1YwN1YwP1YwP1YwN2agAY5bCZoCX4XgK1XvI1XtA1YXN1YXL1boT3YXL1boT1bdT1YXL3Y
  XL2YXL2YXL1boS3YXL1XwC1YXN1XgK1XgK1YXN1YzO1YXN2boT2YXN1YXN1YXN1YXN2Xy81YXL2YXL1YXL2XeI4Zv0BXgK5Y
  XN1YXN1YXN1YXN8YXN3YwDGYwE1YwF3ZsF6YwN1YwO2YwP1YwN1YwP1YwP7YwP1YwP1YwP2YwP1YwQ1YwP1YwP1YwP1YwP1m
  F1YwP3a_56YwP1YwP1YwN1YwP1YwP1YwN2acRY5bCZj9X4XhF1YWS1XkV1XpC1XpB1bp33XpB1bp31bdT1XpB3XpB2XpB2Xp
  B1bn73XpB1XlG1XpC1XhF1XhF1XpC1YzF1XpC2bp32XpC1XpC1XpC1XpC2Xr31XpB2XpB1XpB2XeI4Zv0BXhF5XpC1XpC1Xp
  C1XpC8XpC3YwDGYwE1YwF3Zt36YwN1YwO2YwP1YwN1YwP1YwP7YwP1YwP1YwP2YwP1YwQ1YwP1YwP1YwP1YwP1o01YwP3a_5
  6YwP1YwP1YwN1YwP1YwP1YwN2agAY5bCZoRX4XjD1YjM1XkV1XpC1XpB1bp83XpB1bp81bdT1XpB3XpB2XpB2XpB1bnS3XpB
  1XlG1XpC1XjD1XjD1XpC1YzM1XpC2bp82XpC1XpC1XpC1XpC2YcU1XpB2XpB1XpB2XeI4Zv0BXjD5XpC1XpC1XpC1XpC8XpC
  3YwDGYwE1YwF3Zt36YwN1YwO2YwP1YwN1YwP1YwP7YwP1YwP1YwP2YwP1YwQ1YwP1YwP1YwP1YwP1qA1YwP3a_56YwP1YwP1
  YwN1YwP1YwP1YwN2agAXAbCZo6X4XfM1Xt81XkV1XpC1XpB1boQ3XpB1boQ2XpB3XpB2XpB2XpB1bmM3XpB1XlG1XpC1XfM1
  XfM1XpC1Yz51XpC2boQ2XpC1XpC1XpC1XpC2XpB1XpB2XpB1XpB2XeI4ZpRBXfM5XpC1XpC1XpC1XpC8XpCXKlK4azTDagAX
  AbCZiHX4XfR1XtE1XtA1YXN1YXL1bd73YXL1bd72YXL3YXL2YXL2YXL1bd63YXL1XwC1YXN1XfR1XfR1YXN1YwJ1YXN2bd72
  YXN1YXN1YXN1YXN2YXL1YXL2YXL1YXL2XeI4ZpRBXfR5YXN1YXN1YXN1YXN8YXNXKiE4azTDacRXAbCZiHX4XgK1Xw91XtA1
  YXN1YXL1boT3YXL1boT2YXL3YXL2YXL2YXL1boS3YXL1XwC1YXN1XgK1XgK1YXN1YzO1YXN2boT2YXN1YXN1YXN1YXN2YXL1
  YXL2YXL1YXL2XeI4ZpRBXgK5YXN1YXN1YXN1YXN8YXNXKmF4azTDacRXAbCZo6X4XgV1XxL1XkV1XpC1XpB1bmN3XpB1bmN2
  XpB3XpB2XpB2XpB1bgS3XpB1XlG1XpC1XgV1XgV1XpC1Yz01XpC2bmN2XpC1XpC1XpC1XpC2XpB1XpB2XpB1XpB2XeI4ZpRB
  XgV5XpC1XpC1XpC1XpC8XpCXKjN4azTDagAXAbCZiHX4XhN1YeS1XtA1YXN1YXL1bo43YXL1bo42YXL3YXL2YXL2YXL1bo33
  YXL1XwC1YXN1XhN1XhN1YXN1YzN1YXN2bo42YXN1YXN1YXN1YXN2YXL1YXL2YXL1YXL2XeI4ZpRBXhN5YXN1YXN1YXN1YXN8
  YXNXKkR4azTDacRXAbCZo6X4XhF1YXI1XkV1XpC1XpB1bp33XpB1bp32XpB3XpB2XpB2XpB1bn73XpB1XlG1XpC1XhF1XhF1
  XpC1YzF1XpC2bp32XpC1XpC1XpC1XpC2XpB1XpB2XpB1XpB2XeI4ZpRBXhF5XpC1XpC1XpC1XpC8XpCXKo04azTDagAXAbCZ
  o6X4XjD1YkC1XkV1XpC1XpB1bp83XpB1bp82XpB3XpB2XpB2XpB1bnS3XpB1XlG1XpC1XjD1XjD1XpC1YzM1XpC2bp82XpC1
  XpC1XpC1XpC2XpB1XpB2XpB1XpB2XeI4ZpRBXjD5XpC1XpC1XpC1XpC8XpCXKqA4azTDagAXAbCZo6X4XjA1Yj81XkV1XpC1
  XpB1bp53XpB1bp52XpB3XpB2XpB2XpB1bnF3XpB1XlG1XpC1XjA1XjA1XpC1YzK1XpC2bp52XpC1XpC1XpC1XpC2XpB1XpB2
  XpB1XpB2XeI4ZpRBXjA5XpC1XpC1XpC1XpC8XpCXKoP4azTDagAXAbCZo6X4XjB1YjC1XkV1XpC1XpB1bp73XpB1bp72XpB3
  XpB2XpB2XpB1bnM3XpB1XlG1XpC1XjB1XjB1XpC1YzL1XpC2bp72XpC1XpC1XpC1XpC2XpB1XpB2XpB1XpB2XeI4ZpRBXjB5
  XpC1XpC1XpC1XpC8XpCXKpI4azTDagAXAbCZo6X4Xc71YmR1XkV1XpC1XpB1bgT3XpB1bgT2XpB3XpB2XpB2XpB1bmV3XpB1
  XlG1XpC1Xc71Xc71XpC1YzA1XpC2bgT2XpC1XpC1XpC1XpC2XpB1XpB2XpB1XpB2XeI4ZpRBXc75XpC1XpC1XpC1XpC8XpCX
  Kn64azTDagAVbCahLXEbdTSYwLAbdUUYwDGYwE1YwF3Y_56YwN1YwO2YwP1YwN1YwP1YwP7YwP1YwP1YwP2YwP1YwQ1YwP1Y
  wP1YwP1YwP2YwP3a-A6YwP1YwP1YwN1YwP1YwP1YwNXObBvL1ZiHAvB1vBPXhN1YfB1XtA1YXN1YXL1bo43YXL1bo42YXL1v
  B2YXL1vB1YXL1vB1YXL1bo33YXL1XwC1YXN1XhN1XhN1YXN1YzN1YXN2bo42YXN1YXN1YXN1YXN2YXL1YXL2YXL1YXL2XeI4
  ZpRBXhN3vB2YXN1YXN1YXN1YXN5vB1vB1vB1cI2vB2vB2vB3vBXBkR4azTDZuIXObBx31ZiHAvB1vBPXhN1YfP1XtA1YXN1Y
  XL1bo43YXL1bo42YXL1vB2YXL1vB1YXL1vB1YXL1bo33YXL1XwC1YXN1XhN1XhN1YXN1YzN1YXN2bo42YXN1YXN1YXN1YXN2
  YXL1YXL2YXL1YXL2XeI4ZpRBXhN3vB2YXN1YXN1YXN1YXN5vB1vB1vB1cI2vB2vB2vB3vBXBkR4azTDZuIVbCazCXEbdTSYw
  LAboCUYwDGZcD1YwF3ZpL6YwN1YwO2YwP1YwN1YwP1YwP7YwP1YwP1YwP2YwP1YwQ1YwP1YwP1YwP1YwP2YwP3bcR6YwP1Yw
  P1YwN1YwP1YwP1YwNXObBx31ZiHAvB1vBPXhN1YfP1XtA1YXN1YXL1bo43YXL1bo42YXL1vB2YXL1vB1YXL1vB1YXL1bo33Y
  XL1XwC1YXN1XhN1XhN1YXN1YzN1YXN2bo42YXN1YXN1YXN1YXN2YXL1YXL2YXL1YXL2XeI4ZpRBXhN3vB2YXN1YXN1YXN1YX
  N5vB1vB1vB1Yg02vB2vB2vB3vBXBkR4azTDabOVbCaxUXEbmTSZZEAbiJUY_PGY-N1ZYJ3ZZS6ZZG1ZZH2ZZI1ZZG1ZZI1ZZ
  I7ZZI1ZZI1ZZI2ZZI1ZZJ1ZZI1ZZI1ZZI1ZZI2ZZI3bcD6ZZI1ZZI1ZZG1ZZI1ZZI1ZZGXObBvL1ZiHAvB1vBPXhN1YfB1Xt
  A1YXN1YXL1bo43YXL1bo42YXL1vB2YXL1vB1YXL1vB1YXL1bo33YXL1XwC1YXN1XhN1XhN1YXN1YzN1YXN2bo42YXN1YXN1Y
  XN1YXN2YXL1YXL2YXL1YXL2XeI4ZpRBXhN3vB2YXN1YXN1YXN1YXN5vB1vB1vB1Yg02vB2vB2vB3vBXBkR4azTDabOXObBaZ
  81ZiHAaY51aY5PXhN1YhA1XtA1YXN1YXL1bo43YXL1bo42YXL1aY52YXL1aY51YXL1aY51YXL1bo33YXL1XwC1YXN1XhN1Xh
  N1YXN1YzN1YXN2bo42YXN1YXN1YXN1YXN2YXL1YXL2YXL1YXL2XeI4ZpRBXhN3aY52YXN1YXN1YXN1YXN5aY51aY51aY51Yg
  I2aY52aY52aY53aY5XBkR4azTDac9XObBaYB1ZiHAaY51aY5PXhN1Yh91XtA1YXN1YXL1bo43YXL1bo42YXL1aY52YXL1aY5
  1YXL1aY51YXL1bo33YXL1XwC1YXN1XhN1XhN1YXN1YzN1YXN2bo42YXN1YXN1YXN1YXN2YXL1YXL2YXL1YXL2XeI4ZpRBXhN
  3aY52YXN1YXN1YXN1YXN5aY51aY51aY51YgI2aY52aY52aY53aY5XBkR4azTDac9XJbCZo6X4XgV1XtC1XkV1XpC1XpB1ZuC
  3XpB1ZuC2XpB3XpB2XpB2XpB1bgS1ahD2XpB1XlG1XpC1XfS1XfS1XpC1Yz01XpC2ZuC2XpC1XpC1XpC1XpC1bdG1XpB1XpB
  2XpB1XpB2XeI4ZpR2ZuD1ZiM8XfS5XpC1XpC1XpC1XpC8XpCAeJ1fA1ahD1ahD1ZiNX6jN4azTDe4XJbCZo6X4XgV1Xv81Xk
  V1XpC1XpB1ZuC3XpB1ZuC2XpB3XpB2XpB2XpB1bgS1ahD2XpB1XlG1XpC1XfS1XfS1XpC1Yz01XpC2ZuC2XpC1XpC1XpC1Xp
  C1biE1XpB1XpB2XpB1XpB2XeI4ZpR2ZuD1ZiM8XfS5XpC1XpC1XpC1XpC8XpCAeJ1fA1ahD1ahD1ZiNX6jN4azTDe41bPcLX
  IbCZo6X4Xc71Yo71XkV1XpC1XpB1ZpO3XpB1ZpO2XpB3XpB2XpB2XpB1bmV1ahD2XpB1XlG1XpC1XdQ1XdQ1XpC1YzA1XpC2
  ZpO2XpC1XpC1XpC1XpC2XpB1XpB2XpB1XpB2XeI4ZpR2ZuD1ZiM8XdQ5XpC1XpC1XpC1XpC8XpCAeJ1fA1ahD1ahD1ZiNX6n
  64azTDe4XIbCZo6X4Xc71Yo71XkV1XpC1XpB1ZpO3XpB1ZpO2XpB3XpB2XpB2XpB1bmV1bW12XpB1XlG1XpC1XdQ1XdQ1XpC
  1YzA1XpC2ZpO2XpC1XpC1XpC1XpC2XpB1XpB2XpB1XpB2XeI4ZpR2ZuD1ZiM8XdQ5XpC1XpC1XpC1XpC8XpCAeJ1fA1bW11b
  W11ZiNX6n64azTDe4XIbCZo6X4Xc71Yo71XkV1XpC1XpB1ZpO3XpB1ZpO2XpB3XpB2XpB2XpB1bmV1awT2XpB1XlG1XpC1Xd
  Q1XdQ1XpC1YzA1XpC2ZpO2XpC1XpC1XpC1XpC2XpB1XpB2XpB1XpB2XeI4ZpR2ZuD1ZiM8XdQ5XpC1XpC1XpC1XpC8XpCAeJ
  1fA1awT1awT1ZiNX6n64azTDe4XIbCZo6X4Xc71Yo71XkV1XpC1XpB1ZpO3XpB1ZpO2XpB3XpB2XpB2XpB1bmV1axT2XpB1X
  lG1XpC1XdQ1XdQ1XpC1YzA1XpC2ZpO2XpC1XpC1XpC1XpC2XpB1XpB2XpB1XpB2XeI4ZpR2ZuD1ZiM8XdQ5XpC1XpC1XpC1X
  pC8XpCAeJ1fA1axT1axT1ZiNX6n64azTDe4XGbCZo6X4XfM1YXR1XkV1XpC1XpB1agK1ahE2XpB1agK2XpB3XpB2XpB2XpB1
  bmM3XpB1XlG1XpC1XhE1XhE1XpC1Yz51XpC2agK1ahF1XpC1XpC1XpC1XpC2XpB1XpB2XpB1XpB2XeI4ZpR2acU1ZiM8XhE5
  XpC1XpC1XpC1XpC8XpCXKlK4azTDagA7ahG1ahHXGbCZo6X4XfM1YY41XkV1XpC1XpB1agK1ahE2XpB1agK2XpB3XpB2XpB2
  XpB1bmM3XpB1XlG1XpC1XhE1XhE1XpC1Yz51XpC2agK1ahF1XpC1XpC1XpC1XpC2XpB1XpB2XpB1XpB2XeI4ZpR2acU1ZiM8
  XhE5XpC1XpC1XpC1XpC8XpCXKlK4azTDagA7ahG1ahHXGbCZo6X4XfM1YdN1XkV1XpC1XpB1agK1ahE2XpB1agK2XpB3XpB2
  XpB2XpB1bmM3XpB1XlG1XpC1XhE1XhE1XpC1Yz51XpC2agK1awV1XpC1XpC1XpC1XpC2XpB1XpB2XpB1XpB2XeI4ZpR2acU1
  ZiM8XhE5XpC1XpC1XpC1XpC8XpCXKlK4azTDagA7ax01ahHXFbCZo6X4XjB1YlT1XkV1XpC1XpB1azL1ahE2XpB1azL2XpB3
  XpB2XpB2XpB1bnM3XpB1XlG1XpC1XhG1XhG1XpC1YzL1XpC2azL2XpC1XpC1XpC1XpC2XpB1XpB2XpB1XpB2XeI4ZpR2acU1
  ZiM8XhG5XpC1XpC1XpC1XpC8XpCXDbfC7pI4azTDagA8ahHXAbCZo6X4XfM1Xt61XkV1XpC1XpB1boQ3XpB1boQ2XpB3XpB2
  XpB2XpB1bmM3XpB1XlG1XpC1XfM1XfM1XpC1Yz51XpC2boQ2XpC1XpC1XpC1XpC2XpB1XpB2XpB1XpB2XeI4ZpRBXfM5XpC1
  XpC1XpC1XpC8XpCXKlK4azTDagAXEbCZo6X4Xc71Yo71XkV1XpC1XpB1ZpO1awU2XpB1ZpO2XpB3XpB2XpB2XpB1bmV3XpB1
  XlG1XpC1XdQ1XdQ1XpC1YzA1XpC2ZpO2XpC1XpC1XpC1XpC2XpB1XpB2XpB1XpB2XeI4ZpR2aeT1ZiM8XdQ5XpC1XpC1XpC1
  XpC8XpCXKn64azTDagA8ax1XEbCZo6AfB1fBIfB7XgQ1YYA1XkV1XpC1XpB1aiA3XpB1aiA2XpB3XpB2XpB2XpB1bmM3XpB1
  XlG1XpC1XgQ1XgQ1XpC1Yz51XpC2aiA2XpC1XpC1XpC1XpC1beH1XpB1XpB2XpB1XpB2XeI4ZpRBXgQ5XpC1XpC1XpC1XpC8
  XpCXKlK4azTDagAXEbCZo6X4XfM1YfH1XkV1XpC1XpB1agK1a_02XpB1agK2XpB3XpB2XpB2XpB1bmM3XpB1XlG1XpC1XhE1
  XhE1XpC1Yz51XpC2agK1aiE1XpC1XpC1XpC1XpC2XpB1XpB2XpB1XpB2XeI4ZpR2aiF1ZiM8XhE5XpC1XpC1XpC1XpC8XpCX
  KlK4azTDagAXEbCZo6X4XjB1YkK1XkV1XpC1XpB1azL1ahE2XpB1azL2XpB3XpB2XpB2XpB1bnM3XpB1XlG1XpC1XhG1XhG1
  XpC1YzL1XpC2azL2XpC1XpC1XpC1XpC2XpB1XpB2XpB1XpB2XeI4ZpR2acU1ZiM8XhG5XpC1XpC1XpC1XpC8XpCXKpI4azTD
  agA8ahHXAbCZo6X4Xc71YmP1XkV1XpC1XpB1bgT3XpB1bgT2XpB3XpB2XpB2XpB1bmV3XpB1XlG1XpC1Xc71Xc71XpC1YzA1
  XpC2bgT2XpC1XpC1XpC1XpC2XpB1XpB2XpB1XpB2XeI4ZpRBXc75XpC1XpC1XpC1XpC8XpCXKn64azTDagAXEbCZo6X4Xc71
  Yo71XkV1XpC1XpB1ZpO1ahE2XpB1ZpO2XpB3XpB2XpB2XpB1bmV3XpB1XlG1XpC1XdQ1XdQ1XpC1YzA1XpC2ZpO2XpC1XpC1
  XpC1XpC2XpB1XpB2XpB1XpB2XeI4ZpR2acU1ZiM8XdQ5XpC1XpC1XpC1XpC8XpCXKn64azTDagA8ahHXEbCZo6AfG1fGIfG7
  XgQ1YfA1XkV1XpC1XpB1aiA3XpB1aiA2XpB3XpB2XpB2XpB1bmM3XpB1XlG1XpC1XgQ1XgQ1XpC1Yz51XpC2aiA2XpC1XpC1
  XpC1XpC1bpE1XpB1XpB2XpB1XpB2XeI4ZpRBXgQ5XpC1XpC1XpC1XpC8XpCXKlK4azTDagAXDbCZo6X4Xc71Yo71XkV1XpC1
  XpB1ZpO1a_02XpB1ZpO2XpB3XpB2XpB2XpB1bmV3XpB1XlG1XpC1XdQ1XdQ1XpC1YzA1XpC2ZpO2XpC1XpC1XpC1XpC2XpB1
  XpB2XpB1XpB2XeI4ZpR2aiF1ZiM8XdQ5XpC1XpC1XpC1XpC8XpCXKn64azTDagAXAbCZo6X4XgV1XxJ1XkV1XpC1XpB1bmN3
  XpB1bmN2XpB3XpB2XpB2XpB1bgS3XpB1XlG1XpC1XgV1XgV1XpC1Yz01XpC2bmN2XpC1XpC1XpC1XpC2XpB1XpB2XpB1XpB2
  XeI4ZpRBXgV5XpC1XpC1XpC1XpC8XpCXKjN4azTDagAXEbCZo6X4Xc71Yo71XkV1XpC1XpB1ZpO3XpB1ZpO2XpB3XpB2XpB2
  XpB1bmV3XpB1XlG1XpC1XdQ1XdQ1XpC1YzA1XpC2ZpO2XpC1XpC1XpC1XpC2XpB1XpB2XpB1XpB2XeI4ZpR2ZuR1ZiM8XdQ5
  XpC1XpC1XpC1XpC8XpCAeL1fDX9n64azTDXdKXCbCZo6X4XgV1YYR1XkV1XpC1XpB1bmN3XpB1bmN2XpB3XpB2XpB2XpB1bg
  S3XpB1XlG1XpC1XgV1XgV1XpC1Yz01XpC2bmN1aiQ1XpC1XpC1XpC1XpC2XpB1XpB2XpB1XpB2XeI4ZpRBXgV5XpC1XpC1Xp
  C1XpC8XpCXKjN4azTDagA7aiRXAbCZiHX4XfR1XtB1XtA1YXN1YXL1bd73YXL1bd72YXL3YXL2YXL2YXL1bd63YXL1XwC1YX
  N1XfR1XfR1YXN1YwJ1YXN2bd72YXN1YXN1YXN1YXN2YXL1YXL2YXL1YXL2XeI4ZpRBXfR5YXN1YXN1YXN1YXN8YXNXKiE4az
  TDacRXCbCZo6X4XgV1YdV1XkV1XpC1XpB1bmN3XpB1bmN2XpB3XpB2XpB2XpB1bgS3XpB1XlG1XpC1XgV1XgV1XpC1Yz01Xp
  C2bmN1axH1XpC1XpC1XpC1XpC2XpB1XpB2XpB1XpB2XeI4ZpRBXgV5XpC1XpC1XpC1XpC8XpCXKjN4azTDagA7axIXCbCZo6
  X4XgV1YeL1XkV1XpC1XpB1bmN3XpB1bmN2XpB3XpB2XpB2XpB1bgS3XpB1XlG1XpC1XgV1XgV1XpC1Yz01XpC2bmN1ay51Xp
  C1XpC1XpC1XpC2XpB1XpB2XpB1XpB2XeI4ZpRBXgV5XpC1XpC1XpC1XpC8XpCXKjN4azTDagA7ay6XCbCZo6X4XgV1YeM1Xk
  V1XpC1XpB1bmN3XpB1bmN2XpB3XpB2XpB2XpB1bgS3XpB1XlG1XpC1XgV1XgV1XpC1Yz01XpC2bmN1ayH1XpC1XpC1XpC1Xp
  C2XpB1XpB2XpB1XpB2XeI4ZpRBXgV5XpC1XpC1XpC1XpC8XpCXKjN4azTDagA7ayIXCbCZo6X4XgV1YeN1XkV1XpC1XpB1bm
  N3XpB1bmN2XpB3XpB2XpB2XpB1bgS3XpB1XlG1XpC1XgV1XgV1XpC1Yz01XpC2bmN1ayP1XpC1XpC1XpC1XpC2XpB1XpB2Xp
  B1XpB2XeI4ZpRBXgV5XpC1XpC1XpC1XpC8XpCXKjN4azTDagA7ayQXCbCZo6X4XgV1YeO1XkV1XpC1XpB1bmN3XpB1bmN2Xp
  B3XpB2XpB2XpB1bgS3XpB1XlG1XpC1XgV1XgV1XpC1Yz01XpC2bmN1az21XpC1XpC1XpC1XpC2XpB1XpB2XpB1XpB2XeI4Zp
  RBXgV5XpC1XpC1XpC1XpC8XpCXKjN4azTDagA7az3XCbCZo6X4XgV1YeP1XkV1XpC1XpB1bmN3XpB1bmN2XpB3XpB2XpB2Xp
  B1bgS3XpB1XlG1XpC1XgV1XgV1XpC1Yz01XpC2bmN1az51XpC1XpC1XpC1XpC2XpB1XpB2XpB1XpB2XeI4ZpRBXgV5XpC1Xp
  C1XpC1XpC8XpCXKjN4azTDagA7az6XAbCZiHX4XhN1YeQ1XtA1YXN1YXL1bo43YXL1bo42YXL3YXL2YXL2YXL1bo33YXL1Xw
  C1YXN1XhN1XhN1YXN1YzN1YXN2bo42YXN1YXN1YXN1YXN2YXL1YXL2YXL1YXL2XeI4ZpRBXhN5YXN1YXN1YXN1YXN8YXNXKk
  R4azTDacRXAbCZiHX4XgK1Xw71XtA1YXN1YXL1boT3YXL1boT2YXL3YXL2YXL2YXL1boS3YXL1XwC1YXN1XgK1XgK1YXN1Yz
  O1YXN2boT2YXN1YXN1YXN1YXN2YXL1YXL2YXL1YXL2XeI4ZpRBXgK5YXN1YXN1YXN1YXN8YXNXKmF4azTDacRXAbCZo6X4Xh
  F1YXG1XkV1XpC1XpB1bp33XpB1bp32XpB3XpB2XpB2XpB1bn73XpB1XlG1XpC1XhF1XhF1XpC1YzF1XpC2bp32XpC1XpC1Xp
  C1XpC2XpB1XpB2XpB1XpB2XeI4ZpRBXhF5XpC1XpC1XpC1XpC8XpCXKo04azTDagAXAbCZo6X4XjA1Yj61XkV1XpC1XpB1bp
  53XpB1bp52XpB3XpB2XpB2XpB1bnF3XpB1XlG1XpC1XjA1XjA1XpC1YzK1XpC2bp52XpC1XpC1XpC1XpC2XpB1XpB2XpB1Xp
  B2XeI4ZpRBXjA5XpC1XpC1XpC1XpC8XpCXKoP4azTDagAXAbCZo6X4XjB1YjA1XkV1XpC1XpB1bp73XpB1bp72XpB3XpB2Xp
  B2XpB1bnM3XpB1XlG1XpC1XjB1XjB1XpC1YzL1XpC2bp72XpC1XpC1XpC1XpC2XpB1XpB2XpB1XpB2XeI4ZpRBXjB5XpC1Xp
  C1XpC1XpC8XpCXKpI4azTDagAXAbCZo6X4XjD1YkA1XkV1XpC1XpB1bp83XpB1bp82XpB3XpB2XpB2XpB1bnS3XpB1XlG1Xp
  C1XjD1XjD1XpC1YzM1XpC2bp82XpC1XpC1XpC1XpC2XpB1XpB2XpB1XpB2XeI4ZpRBXjD5XpC1XpC1XpC1XpC8XpCXKqA4az
  TDagAXDbCZo6X4Xc71Yo71XkV1XpC1XpB1ZpO3XpB1ZpO2XpB3XpB2XpB2XpB1bmV3XpB1XlG1XpC1XdQ1XdQ1XpC1YzA1Xp
  C2ZpO2XpC1XpC1XpC1XpC2XpB1XpB2XpB1XpB2XeI4ZpR2ZuQ1ZiM8XdQ5XpC1XpC1XpC1XpC8XpCBfCX9n64azTDagAXDbC
  Zo6X4XfM1YfL1XkV1XpC1XpB1agK1a_S2XpB1agK2XpB3XpB2XpB2XpB1bmM3XpB1XlG1XpC1XhE1XhE1XpC1Yz51XpC2agK
  2XpC1XpC1XpC1XpC2XpB1XpB2XpB1XpB2XeI4ZpR2aj61ZiM8XhE5XpC1XpC1XpC1XpC8XpCXKlK4azTDagAXDbCZo6X4Xc7
  1Yo71XkV1XpC1XpB1ZpO3XpB1ZpO2XpB3XpB2XpB2XpB1bmV3XpB1XlG1XpC1XdQ1XdQ1XpC1YzA1XpC2ZpO2XpC1XpC1XpC
  1XpC2XpB1XpB2XpB1XpB2XeI4ZpR2ZvE1ZiM8XdQ5XpC1XpC1XpC1XpC8XpCBfFX9n64azTDagAXBbCZo6X4XfM1YfH1XkV1
  XpC1XpB1boQ3XpB1boQ2XpB3XpB2XpB2XpB1bmM3XpB1XlG1XpC1XfM1XfM1XpC1Yz51XpC2boQ1aiE1XpC1XpC1XpC1XpC2
  XpB1XpB2XpB1XpB2XeI4ZpRBXfM5XpC1XpC1XpC1XpC8XpCXKlK4azTDagAXEbCZjIX4Xc71YmP1XkV1XpC1XpB1bgT3XpB1
  bgT2XpB3XpB2XpB2XpB1bmV3XpB1XlG1XpC1Xc71Xc71XpC1YzA1XpC2bgT2XpC1XpC1XpC1XpC2XpB1XpB2XpB1XpB2XeI4
  ZpRBXc75XpC1XpC1XpC1XpC8XpCX6YuJ1YuK1YvQ1YwRBn64azTDagAXDbCZo6X4Xc71Yo71XkV1XpC1XpB1ZpO1a_S2XpB1
  ZpO2XpB3XpB2XpB2XpB1bmV3XpB1XlG1XpC1XdQ1XdQ1XpC1YzA1XpC2ZpO2XpC1XpC1XpC1XpC2XpB1XpB2XpB1XpB2XeI4
  ZpR2aj61ZiM8XdQ5XpC1XpC1XpC1XpC8XpCXKn64azTDagAXEbCZoGX4XfR1XtB1XtA1YXN1YXL1bd73YXL1bd72YXL3YXL2
  YXL2YXL1bd63YXL1XwC1YXN1XfR1XfR1YXN1YwJ1YXN2bd72YXN1YXN1YXN1YXN2YXL1YXL2YXL1YXL2XeI4ZpRBXfR5YXN1
  YXN1YXN1YXN8YXNX6YuJ1YuK1YvQ1YwRBiE4azTDacRXEbCZoPX4XgV1XxJ1XkV1XpC1XpB1bmN3XpB1bmN2XpB3XpB2XpB2
  XpB1bgS3XpB1XlG1XpC1XgV1XgV1XpC1Yz01XpC2bmN2XpC1XpC1XpC1XpC2XpB1XpB2XpB1XpB2XeI4ZpRBXgV5XpC1XpC1
  XpC1XpC8XpCX6YuJ1YuK1YvQ1YwRBjN4azTDagAXEbCZjIX4XfM1Xt61XkV1XpC1XpB1boQ3XpB1boQ2XpB3XpB2XpB2XpB1
  bmM3XpB1XlG1XpC1XfM1XfM1XpC1Yz51XpC2boQ2XpC1XpC1XpC1XpC2XpB1XpB2XpB1XpB2XeI4ZpRBXfM5XpC1XpC1XpC1
  XpC8XpCX6YuJ1YuK1YvQ1YwRBlK4azTDagAXEbCZoSX4Xc71YmP1XkV1XpC1XpB1bgT3XpB1bgT2XpB3XpB2XpB2XpB1bmV3
  XpB1XlG1XpC1Xc71Xc71XpC1YzA1XpC2bgT2XpC1XpC1XpC1XpC2XpB1XpB2XpB1XpB2XeI4ZpRBXc75XpC1XpC1XpC1XpC8
  XpCX6YuJ1YuK1YvQ1YwRBn64azTDagAXEbCZp2X4XfM1Xt61XkV1XpC1XpB1boQ3XpB1boQ2XpB3XpB2XpB2XpB1bmM3XpB1
  XlG1XpC1XfM1XfM1XpC1Yz51XpC2boQ2XpC1XpC1XpC1XpC2XpB1XpB2XpB1XpB2XeI4ZpRBXfM5XpC1XpC1XpC1XpC8XpCX
  6YwA1YwB1Y_R1ZZLBlK4azTDagAXBbCZo6X4XgV1Yj51XkV1XpC1XpB1bmN3XpB1bmN2XpB3XpB2XpB2XpB1bgS3XpB1XlG1
  XpC1XgV1XgV1XpC1Yz01XpC2bmN1aiE1XpC1XpC1XpC1XpC2XpB1XpB2XpB1XpB2XeI4ZpRBXgV5XpC1XpC1XpC1XpC8XpCX
  KjN4azTDagAXEbCZoUX4XhN1YeQ1XtA1YXN1YXL1bo43YXL1bo42YXL3YXL2YXL2YXL1bo33YXL1XwC1YXN1XhN1XhN1YXN1
  YzN1YXN2bo42YXN1YXN1YXN1YXN2YXL1YXL2YXL1YXL2XeI4ZpRBXhN5YXN1YXN1YXN1YXN8YXNX6YuJ1YuK1YvQ1YwRBkR4
  azTDacRXEbCZoSX4XjA1Yj61XkV1XpC1XpB1bp53XpB1bp52XpB3XpB2XpB2XpB1bnF3XpB1XlG1XpC1XjA1XjA1XpC1YzK1
  XpC2bp52XpC1XpC1XpC1XpC2XpB1XpB2XpB1XpB2XeI4ZpRBXjA5XpC1XpC1XpC1XpC8XpCX6YuJ1YuK1YvQ1YwRBoP4azTD
  agAXEbCZoGX4XgK1Xw71XtA1YXN1YXL1boT3YXL1boT2YXL3YXL2YXL2YXL1boS3YXL1XwC1YXN1XgK1XgK1YXN1YzO1YXN2
  boT2YXN1YXN1YXN1YXN2YXL1YXL2YXL1YXL2XeI4ZpRBXgK5YXN1YXN1YXN1YXN8YXNX6YuJ1YuK1YvQ1YwRBmF4azTDacRX
  EbCZp0X4XjB1YjA1XkV1XpC1XpB1bp73XpB1bp72XpB3XpB2XpB2XpB1bnM3XpB1XlG1XpC1XjB1XjB1XpC1YzL1XpC2bp72
  XpC1XpC1XpC1XpC2XpB1XpB2XpB1XpB2XeI4ZpRBXjB5XpC1XpC1XpC1XpC8XpCX6YuJ1YuK1YvQ1YwRBpI4azTDagAXEbCZ
  jIX4XhF1YXG1XkV1XpC1XpB1bp33XpB1bp32XpB3XpB2XpB2XpB1bn73XpB1XlG1XpC1XhF1XhF1XpC1YzF1XpC2bp32XpC1
  XpC1XpC1XpC2XpB1XpB2XpB1XpB2XeI4ZpRBXhF5XpC1XpC1XpC1XpC8XpCX6YuJ1YuK1YvQ1YwRBo04azTDagAXEbCZoSX4
  XjD1YkA1XkV1XpC1XpB1bp83XpB1bp82XpB3XpB2XpB2XpB1bnS3XpB1XlG1XpC1XjD1XjD1XpC1YzM1XpC2bp82XpC1XpC1
  XpC1XpC2XpB1XpB2XpB1XpB2XeI4ZpRBXjD5XpC1XpC1XpC1XpC8XpCX6YuJ1YuK1YvQ1YwRBqA4azTDagAXBbCZiHX4XfR1
  XwE1XtA1YXN1YXL1bd73YXL1bd72YXL3YXL2YXL2YXL1bd63YXL1XwC1YXN1XfR1XfR1YXN1YwJ1YXN2bd72YXN1YXN1YXN1
  YXN1a-61YXL1YXL2YXL1YXL2XeI4ZpRBXfR5YXN1YXN1YXN1YXN8YXNXKiE4azTDacRXCbCZo6TfJ7XfM1YZ81XkV1XpC1Xp
  B1boQ3XpB1boQ2XpB3XpB2XpB2XpB1bmM3XpB1XlG1XpC1XfM1XfM1XpC1Yz51XpC2boQ2XpC1XpC1XpC1XpC1bfB1XpB1Xp
  B2XpB1XpB2XeI4ZpRBXfM5XpC1XpC1XpC1XpC8XpCXKlK4azTDagAXCbCZo6X4Xc71Yo71XkV1XpC1XpB1ZpO3XpB1ZpO2Xp
  B3XpB2XpB2XpB1bmV3XpB1XlG1XpC1XdQ1XdQ1XpC1YzA1XpC2ZpO2XpC1XpC1XpC1XpC2XpB1XpB2XpB1XpB2XeI4ZpR2Zv
  F1ZiM8XdQ5XpC1XpC1XpC1XpC8XpCXKn64azTDagAXCbCZo6TfL7XfM1YaC1XkV1XpC1XpB1boQ3XpB1boQ2XpB3XpB2XpB2
  XpB1bmM3XpB1XlG1XpC1XfM1XfM1XpC1Yz51XpC2boQ2XpC1XpC1XpC1XpC1bfO1XpB1XpB2XpB1XpB2XeI4ZpRBXfM5XpC1
  XpC1XpC1XpC8XpCXKlK4azTDagAXCbCZo6X4Xc71Yo71XkV1XpC1XpB1ZpO3XpB1ZpO2XpB3XpB2XpB2XpB1bmV3XpB1XlG1
  XpC1XdQ1XdQ1XpC1YzA1XpC2ZpO2XpC1XpC1XpC1XpC2XpB1XpB2XpB1XpB2XeI4ZpR2Zw71ZiM8XdQ5XpC1XpC1XpC1XpC8
  XpCXKn64azTDagAXCbCZo6TfN7XfM1Yf71XkV1XpC1XpB1boQ3XpB1boQ2XpB3XpB2XpB2XpB1bmM3XpB1XlG1XpC1XfM1Xf
  M1XpC1Yz51XpC2boQ2XpC1XpC1XpC1XpC1boJ1XpB1XpB2XpB1XpB2XeI4ZpRBXfM5XpC1XpC1XpC1XpC8XpCXKlK4azTDag
  AXCbCZo6TfP7XfM1Yf81XkV1XpC1XpB1boQ3XpB1boQ2XpB3XpB2XpB2XpB1bmM3XpB1XlG1XpC1XfM1XfM1XpC1Yz51XpC2
  boQ2XpC1XpC1XpC1XpC1boO1XpB1XpB2XpB1XpB2XeI4ZpRBXfM5XpC1XpC1XpC1XpC8XpCXKlK4azTDagAXAbCZo6X4Xj71
  Yo71XkV1XpC1XpB1azJ3XpB1azJ2XpB3XpB2XpB2XpB1bmV3XpB1XlG1XpC1Xj71Xj71XpC1YzA1XpC2azJ2XpC1XpC1XpC1
  XpC2XpB1XpB2XpB1XpB2XeI4ZpRBXj75XpC1XpC1XpC1XpC8XpCXKn64azTDagAXBbCZo6X4XgV1YaB1XkV1XpC1XpB1bmN3
  XpB1bmN2XpB3XpB2XpB2XpB1bgS3XpB1XlG1XpC1XgV1XgV1XpC1Yz01XpC2bmN2XpC1XpC1XpC1XpC1bfN1XpB1XpB2XpB1
  XpB2XeI4ZpRBXgV5XpC1XpC1XpC1XpC8XpCXKjN4azTDagAXBbCZo6X4XgV1Yb11XkV1XpC1XpB1bmN3XpB1bmN2XpB3XpB2
  XpB2XpB1bgS3XpB1XlG1XpC1XgV1XgV1XpC1Yz01XpC2bmN2XpC1XpC1XpC1XpC1bg81XpB1XpB2XpB1XpB2XeI4ZpRBXgV5
  XpC1XpC1XpC1XpC8XpCXKjN4azTDagAXBbCZo6X4XgV1Yb21XkV1XpC1XpB1bmN3XpB1bmN2XpB3XpB2XpB2XpB1bgS3XpB1
  XlG1XpC1XgV1XgV1XpC1Yz01XpC2bmN2XpC1XpC1XpC1XpC1bg91XpB1XpB2XpB1XpB2XeI4ZpRBXgV5XpC1XpC1XpC1XpC8
  XpCXKjN4azTDagAXBbCZo6X4XgV1YbH1XkV1XpC1XpB1bmN3XpB1bmN2XpB3XpB2XpB2XpB1bgS3XpB1XlG1XpC1XgV1XgV1
  XpC1Yz01XpC2bmN2XpC1XpC1XpC1XpC1bgQ1XpB1XpB2XpB1XpB2XeI4ZpRBXgV5XpC1XpC1XpC1XpC8XpCXKjN4azTDagAX
  BbCZo6X4XgV1YeV1XkV1XpC1XpB1bmN3XpB1bmN2XpB3XpB2XpB2XpB1bgS3XpB1XlG1XpC1XgV1XgV1XpC1Yz01XpC2bmN2
  XpC1XpC1XpC1XpC1bmG1XpB1XpB2XpB1XpB2XeI4ZpRBXgV5XpC1XpC1XpC1XpC8XpCXKjN4azTDagAXBbCZo6X4XgV1Yf11
  XkV1XpC1XpB1bmN3XpB1bmN2XpB3XpB2XpB2XpB1bgS3XpB1XlG1XpC1XgV1XgV1XpC1Yz01XpC2bmN2XpC1XpC1XpC1XpC1
  bmI1XpB1XpB2XpB1XpB2XeI4ZpRBXgV5XpC1XpC1XpC1XpC8XpCXKjN4azTDagAXBbCZo6X4XgV1Yf21XkV1XpC1XpB1bmN3
  XpB1bmN2XpB3XpB2XpB2XpB1bgS3XpB1XlG1XpC1XgV1XgV1XpC1Yz01XpC2bmN2XpC1XpC1XpC1XpC1bmJ1XpB1XpB2XpB1
  XpB2XeI4ZpRBXgV5XpC1XpC1XpC1XpC8XpCXKjN4azTDagAXBbCZo6X4XgV1Yf41XkV1XpC1XpB1bmN3XpB1bmN2XpB3XpB2
  XpB2XpB1bgS3XpB1XlG1XpC1XgV1XgV1XpC1Yz01XpC2bmN2XpC1XpC1XpC1XpC1bmK1XpB1XpB2XpB1XpB2XeI4ZpRBXgV5
  XpC1XpC1XpC1XpC8XpCXKjN4azTDagAXBbCZiHX4XfR1XwF1XtA1YXN1YXL1bd73YXL1bd72YXL3YXL2YXL2YXL1bd63YXL1
  XwC1YXN1XfR1XfR1YXN1YwJ1YXN2bd72YXN1YXN1YXN1YXN1a-71YXL1YXL2YXL1YXL2XeI4ZpRBXfR5YXN1YXN1YXN1YXN8
  YXNXKiE4azTDacRXBbCZiHDYY2NXfR1XtH1XtA1YXN1YXL1bd73YXL1bd72YXL3YXL2YXL2YXL1bd63YXL1XwC1YXN1XfR1X
  fR1YXN1YwJ1YXN2bd72YXN1YXN1YXN1YXN2YXL1YXL2YXL1YXL2XeI4ZpRBXfR5YXN1YXN1YXN1YXN8YXNXKiE4azTDacRXB
  bCZo6X4XgV1Xv51XkV1XpC1XpB1bmN3XpB1bmN2XpB3XpB2XpB2XpB1bgS3XpB1XlG1XpC1XgV1XgV1XpC1Yz01XpC2bmN2X
  pC1XpC1XpC1XpC1bgV1XpB1XpB2XpB1XpB2XeI4ZpRBXgV5XpC1XpC1XpC1XpC8XpCXKjN4azTDagAXBbCZo6X4XhF1YYF1X
  kV1XpC1XpB1bp33XpB1bp32XpB3XpB2XpB2XpB1bn73XpB1XlG1XpC1XhF1XhF1XpC1YzF1XpC2bp32XpC1XpC1XpC1XpC2X
  pB1XpB2XpB1XpB2XeI4ZpRBXhF5XpC1XpC1XpC1XpC3adE5XpCXKo04azTDagAXBbCZo6X4XfM1YYO1XkV1XpC1XpB1boQ3X
  pB1boQ2XpB3XpB2XpB2XpB1bmM3XpB1XlG1XpC1XfM1XfM1XpC1Yz51XpC2boQ2XpC1XpC1XpC1XpC1beS1XpB1XpB2XpB1X
  pB2XeI4ZpRBXfM5XpC1XpC1XpC1XpC8XpCXKlK4azTDagAXBbCZiHDYYQNXfR1XtL1XtA1YXN1YXL1bd73YXL1bd72YXL3YX
  L2YXL2YXL1bd63YXL1XwC1YXN1XfR1XfR1YXN1YwJ1YXN2bd72YXN1YXN1YXN1YXN2YXL1YXL2YXL1YXL2XeI4ZpRBXfR5YX
  N1YXN1YXN1YXN8YXNXKiE4azTDacRXBbCZo6X4XfM1YYU1XkV1XpC1XpB1boQ3XpB1boQ2XpB3XpB2XpB2XpB1bmM3XpB1Xl
  G1XpC1XfM1XfM1XpC1Yz51XpC2boQ2XpC1XpC1XpC1XpC1bf01XpB1XpB2XpB1XpB2XeI4ZpRBXfM5XpC1XpC1XpC1XpC8Xp
  CXKlK4azTDagAXBbCZiHDYZ0NXfR1Xu31XtA1YXN1YXL1bd73YXL1bd72YXL3YXL2YXL2YXL1bd63YXL1XwC1YXN1XfR1XfR
  1YXN1YwJ1YXN2bd72YXN1YXN1YXN1YXN2YXL1YXL2YXL1YXL2XeI4ZpRBXfR5YXN1YXN1YXN1YXN8YXNXKiE4azTDacRXBbC
  Zo6X4XjB1YlT1XkV1XpC1XpB1bp73XpB1bp72XpB3XpB2XpB2XpB1bnM3XpB1XlG1XpC1XjB1XjB1XpC1YzL1XpC2bp72XpC
  1XpC1XpC1XpC2XpB1XpB2XpB1XpB2XeI4ZpRBXjB5XpC1XpC1XpC1XpC8XpCXDbfC7pI4azTDagAXBbCZiHDYZJNXfR1Xu61
  XtA1YXN1YXL1bd73YXL1bd72YXL3YXL2YXL2YXL1bd63YXL1XwC1YXN1XfR1XfR1YXN1YwJ1YXN2bd72YXN1YXN1YXN1YXN2
  YXL1YXL2YXL1YXL2XeI4ZpRBXfR5YXN1YXN1YXN1YXN8YXNXKiE4azTDacRXBbCZiHDYZLNXfR1Xu71XtA1YXN1YXL1bd73Y
  XL1bd72YXL3YXL2YXL2YXL1bd63YXL1XwC1YXN1XfR1XfR1YXN1YwJ1YXN2bd72YXN1YXN1YXN1YXN2YXL1YXL2YXL1YXL2X
  eI4ZpRBXfR5YXN1YXN1YXN1YXN8YXNXKiE4azTDacRXBbCZiHDYZMNXfR1Xu81XtA1YXN1YXL1bd73YXL1bd72YXL3YXL2YX
  L2YXL1bd63YXL1XwC1YXN1XfR1XfR1YXN1YwJ1YXN2bd72YXN1YXN1YXN1YXN2YXL1YXL2YXL1YXL2XeI4ZpRBXfR5YXN1YX
  N1YXN1YXN8YXNXKiE4azTDacRXBbCZo6X4XfM1Ya01XkV1XpC1XpB1boQ3XpB1boQ2XpB3XpB2XpB2XpB1bmM3XpB1XlG1Xp
  C1XfM1XfM1XpC1Yz51XpC2boQ2XpC1XpC1XpC1XpC1bfH1XpB1XpB2XpB1XpB2XeI4ZpRBXfM5XpC1XpC1XpC1XpC8XpCXKl
  K4azTDagAXBbCZo6X4XfM1Ya81XkV1XpC1XpB1boQ3XpB1boQ2XpB3XpB2XpB2XpB1bmM3XpB1XlG1XpC1XfM1XfM1XpC1Yz
  51XpC2boQ2XpC1XpC1XpC1XpC1bfK1XpB1XpB2XpB1XpB2XeI4ZpRBXfM5XpC1XpC1XpC1XpC8XpCXKlK4azTDagAXBbCZo6
  X4XgV1Ya91XkV1XpC1XpB1bmN3XpB1bmN2XpB3XpB2XpB2XpB1bgS3XpB1XlG1XpC1XgV1XgV1XpC1Yz01XpC2bmN2XpC1Xp
  C1XpC1XpC1bfL1XpB1XpB2XpB1XpB2XeI4ZpRBXgV5XpC1XpC1XpC1XpC8XpCXKjN4azTDagAXBbCZo6X4XgV1YaA1XkV1Xp
  C1XpB1bmN3XpB1bmN2XpB3XpB2XpB2XpB1bgS3XpB1XlG1XpC1XgV1XgV1XpC1Yz01XpC2bmN2XpC1XpC1XpC1XpC1bfM1Xp
  B1XpB2XpB1XpB2XeI4ZpRBXgV5XpC1XpC1XpC1XpC8XpCXKjN4azTDagAXBbCZo6X4XjB1YlT1XkV1XpC1XpB1bp73XpB1bp
  72XpB3XpB2XpB2XpB1bnM3XpB1XlG1XpC1XjB1XjB1XpC1YzL1XpC2bp72XpC1XpC1XpC1XpC2XpB1XpB2XpB1XpB2XeI4Zp
  RBXjB5XpC1XpC1XpC1XpC8XpCXDbfP7pI4azTDagAXBbCZo6X4XhF1YYF1XkV1XpC1XpB1bp33XpB1bp32XpB3XpB2XpB2Xp
  B1bn73XpB1XlG1XpC1XhF1XhF1XpC1YzF1XpC2bp32XpC1XpC1XpC1XpC2XpB1XpB2XpB1XpB2XeI4ZpRBXhF5XpC1XpC1Xp
  C1XpC3ak55XpCXKo04azTDagAXBbCZo6X4XgV1Yb01XkV1XpC1XpB1bmN3XpB1bmN2XpB3XpB2XpB2XpB1bgS3XpB1XlG1Xp
  C1XgV1XgV1XpC1Yz01XpC2bmN2XpC1XpC1XpC1XpC1bg71XpB1XpB2XpB1XpB2XeI4ZpRBXgV5XpC1XpC1XpC1XpC8XpCXKj
  N4azTDagAXBbCZo6X4XgV1YbE1XkV1XpC1XpB1bmN3XpB1bmN2XpB3XpB2XpB2XpB1bgS3XpB1XlG1XpC1XgV1XgV1XpC1Yz
  01XpC2bmN2XpC1XpC1XpC1XpC1bgN1XpB1XpB2XpB1XpB2XeI4ZpRBXgV5XpC1XpC1XpC1XpC8XpCXKjN4azTDagAXBbCZo6
  X4XgV1YbF1XkV1XpC1XpB1bmN3XpB1bmN2XpB3XpB2XpB2XpB1bgS3XpB1XlG1XpC1XgV1XgV1XpC1Yz01XpC2bmN2XpC1Xp
  C1XpC1XpC1bgO1XpB1XpB2XpB1XpB2XeI4ZpRBXgV5XpC1XpC1XpC1XpC8XpCXKjN4azTDagAXBbCZo6X4XgV1YbG1XkV1Xp
  C1XpB1bmN3XpB1bmN2XpB3XpB2XpB2XpB1bgS3XpB1XlG1XpC1XgV1XgV1XpC1Yz01XpC2bmN2XpC1XpC1XpC1XpC1bgP1Xp
  B1XpB2XpB1XpB2XeI4ZpRBXgV5XpC1XpC1XpC1XpC8XpCXKjN4azTDagAXBbCZo6DXpINXgV1Xy01XkV1XpC1XpB1bmN3XpB
  1bmN2XpB3XpB2XpB2XpB1bgS3XpB1XlG1XpC1XgV1XgV1XpC1Yz01XpC2bmN2XpC1XpC1XpC1XpC2XpB1XpB2XpB1XpB2XeI
  4ZpRBXgV5XpC1XpC1XpC1XpC8XpCXKjN4azTDagAXBbCZo6DXpSNXgV1XyQ1XkV1XpC1XpB1bmN3XpB1bmN2XpB3XpB2XpB2
  XpB1bgS3XpB1XlG1XpC1XgV1XgV1XpC1Yz01XpC2bmN2XpC1XpC1XpC1XpC2XpB1XpB2XpB1XpB2XeI4ZpRBXgV5XpC1XpC1
  XpC1XpC8XpCXKjN4azTDagAXBbCZo6DXq0NXgV1Xz71XkV1XpC1XpB1bmN3XpB1bmN2XpB3XpB2XpB2XpB1bgS3XpB1XlG1X
  pC1XgV1XgV1XpC1Yz01XpC2bmN2XpC1XpC1XpC1XpC2XpB1XpB2XpB1XpB2XeI4ZpRBXgV5XpC1XpC1XpC1XpC8XpCXKjN4a
  zTDagAXBbCZo6DXq8NXgV1Xz91XkV1XpC1XpB1bmN3XpB1bmN2XpB3XpB2XpB2XpB1bgS3XpB1XlG1XpC1XgV1XgV1XpC1Yz
  01XpC2bmN2XpC1XpC1XpC1XpC2XpB1XpB2XpB1XpB2XeI4ZpRBXgV5XpC1XpC1XpC1XpC8XpCXKjN4azTDagAXBbCZo6DXqA
  NXgV1XzA1XkV1XpC1XpB1bmN3XpB1bmN2XpB3XpB2XpB2XpB1bgS3XpB1XlG1XpC1XgV1XgV1XpC1Yz01XpC2bmN2XpC1XpC
  1XpC1XpC2XpB1XpB2XpB1XpB2XeI4ZpRBXgV5XpC1XpC1XpC1XpC8XpCXKjN4azTDagAXBbCZo6DXqBNXgV1XzB1XkV1XpC1
  XpB1bmN3XpB1bmN2XpB3XpB2XpB2XpB1bgS3XpB1XlG1XpC1XgV1XgV1XpC1Yz01XpC2bmN2XpC1XpC1XpC1XpC2XpB1XpB2
  XpB1XpB2XeI4ZpRBXgV5XpC1XpC1XpC1XpC8XpCXKjN4azTDagAXBbCZiHDYY2NXhN1YdP1XtA1YXN1YXL1bo43YXL1bo42Y
  XL3YXL2YXL2YXL1bo33YXL1XwC1YXN1XhN1XhN1YXN1YzN1YXN2bo42YXN1YXN1YXN1YXN2YXL1YXL2YXL1YXL2XeI4ZpRBX
  hN5YXN1YXN1YXN1YXN8YXNXKkR4azTDacRXBbCZo6X4XgV1XvA1XkV1XpC1XpB1bmN3XpB1bmN2XpB3XpB2XpB2XpB1bgS3X
  pB1XlG1XpC1XgV1XgV1XpC1Yz01XpC2bmN2XpC1XpC1XpC1XpC1bjK1XpB1XpB2XpB1XpB2XeI4ZpRBXgV5XpC1XpC1XpC1X
  pC8XpCXKjN4azTDagAXBbCZiHDYYQNXhN1YdT1XtA1YXN1YXL1bo43YXL1bo42YXL3YXL2YXL2YXL1bo33YXL1XwC1YXN1Xh
  N1XhN1YXN1YzN1YXN2bo42YXN1YXN1YXN1YXN2YXL1YXL2YXL1YXL2XeI4ZpRBXhN5YXN1YXN1YXN1YXN8YXNXKkR4azTDac
  RXBbCZo6X4XfM1Ye11XkV1XpC1XpB1boQ3XpB1boQ2XpB3XpB2XpB2XpB1bmM3XpB1XlG1XpC1XfM1XfM1XpC1Yz51XpC2bo
  Q2XpC1XpC1XpC1XpC1bhK1XpB1XpB2XpB1XpB2XeI4ZpRBXfM5XpC1XpC1XpC1XpC8XpCXKlK4azTDagAXBbCZiHDYZ0NXhN
  1YeC1XtA1YXN1YXL1bo43YXL1bo42YXL3YXL2YXL2YXL1bo33YXL1XwC1YXN1XhN1XhN1YXN1YzN1YXN2bo42YXN1YXN1YXN
  1YXN2YXL1YXL2YXL1YXL2XeI4ZpRBXhN5YXN1YXN1YXN1YXN8YXNXKkR4azTDacRXBbCZiHDYZJNXhN1YeE1XtA1YXN1YXL1
  bo43YXL1bo42YXL3YXL2YXL2YXL1bo33YXL1XwC1YXN1XhN1XhN1YXN1YzN1YXN2bo42YXN1YXN1YXN1YXN2YXL1YXL2YXL1
  YXL2XeI4ZpRBXhN5YXN1YXN1YXN1YXN8YXNXKkR4azTDacRXBbCZiHDYZLNXhN1YeF1XtA1YXN1YXL1bo43YXL1bo42YXL3Y
  XL2YXL2YXL1bo33YXL1XwC1YXN1XhN1XhN1YXN1YzN1YXN2bo42YXN1YXN1YXN1YXN2YXL1YXL2YXL1YXL2XeI4ZpRBXhN5Y
  XN1YXN1YXN1YXN8YXNXKkR4azTDacRXBbCZiHDYZMNXhN1YeG1XtA1YXN1YXL1bo43YXL1bo42YXL3YXL2YXL2YXL1bo33YX
  L1XwC1YXN1XhN1XhN1YXN1YzN1YXN2bo42YXN1YXN1YXN1YXN2YXL1YXL2YXL1YXL2XeI4ZpRBXhN5YXN1YXN1YXN1YXN8YX
  NXKkR4azTDacRXBbCZo6X4XfM1YeJ1XkV1XpC1XpB1boQ3XpB1boQ2XpB3XpB2XpB2XpB1bmM3XpB1XlG1XpC1XfM1XfM1Xp
  C1Yz51XpC2boQ2XpC1XpC1XpC1XpC1bhN1XpB1XpB2XpB1XpB2XeI4ZpRBXfM5XpC1XpC1XpC1XpC8XpCXKlK4azTDagAXBb
  CZo6DXpINXfM1Xs91XkV1XpC1XpB1boQ3XpB1boQ2XpB3XpB2XpB2XpB1bmM3XpB1XlG1XpC1XfM1XfM1XpC1Yz51XpC2boQ
  2XpC1XpC1XpC1XpC2XpB1XpB2XpB1XpB2XeI4ZpRBXfM5XpC1XpC1XpC1XpC8XpCXKlK4azTDagAXBbCZo6DXpSNXfM1XsD1
  XkV1XpC1XpB1boQ3XpB1boQ2XpB3XpB2XpB2XpB1bmM3XpB1XlG1XpC1XfM1XfM1XpC1Yz51XpC2boQ2XpC1XpC1XpC1XpC2
  XpB1XpB2XpB1XpB2XeI4ZpRBXfM5XpC1XpC1XpC1XpC8XpCXKlK4azTDagAXBbCZo6DXq0NXfM1XsQ1XkV1XpC1XpB1boQ3X
  pB1boQ2XpB3XpB2XpB2XpB1bmM3XpB1XlG1XpC1XfM1XfM1XpC1Yz51XpC2boQ2XpC1XpC1XpC1XpC2XpB1XpB2XpB1XpB2X
  eI4ZpRBXfM5XpC1XpC1XpC1XpC8XpCXKlK4azTDagAXBbCZo6DXq8NXfM1XsS1XkV1XpC1XpB1boQ3XpB1boQ2XpB3XpB2Xp
  B2XpB1bmM3XpB1XlG1XpC1XfM1XfM1XpC1Yz51XpC2boQ2XpC1XpC1XpC1XpC2XpB1XpB2XpB1XpB2XeI4ZpRBXfM5XpC1Xp
  C1XpC1XpC8XpCXKlK4azTDagAXBbCZo6DXqANXfM1XsT1XkV1XpC1XpB1boQ3XpB1boQ2XpB3XpB2XpB2XpB1bmM3XpB1XlG
  1XpC1XfM1XfM1XpC1Yz51XpC2boQ2XpC1XpC1XpC1XpC2XpB1XpB2XpB1XpB2XeI4ZpRBXfM5XpC1XpC1XpC1XpC8XpCXKlK
  4azTDagAXBbCZo6DXqBNXfM1XsU1XkV1XpC1XpB1boQ3XpB1boQ2XpB3XpB2XpB2XpB1bmM3XpB1XlG1XpC1XfM1XfM1XpC1
  Yz51XpC2boQ2XpC1XpC1XpC1XpC2XpB1XpB2XpB1XpB2XeI4ZpRBXfM5XpC1XpC1XpC1XpC8XpCXKlK4azTDagAXBbCZiHDY
  Y2NXgK1XvD1XtA1YXN1YXL1boT3YXL1boT2YXL3YXL2YXL2YXL1boS3YXL1XwC1YXN1XgK1XgK1YXN1YzO1YXN2boT2YXN1Y
  XN1YXN1YXN2YXL1YXL2YXL1YXL2XeI4ZpRBXgK5YXN1YXN1YXN1YXN8YXNXKmF4azTDacRXBbCZiHDYYQNXgK1XvH1XtA1YX
  N1YXL1boT3YXL1boT2YXL3YXL2YXL2YXL1boS3YXL1XwC1YXN1XgK1XgK1YXN1YzO1YXN2boT2YXN1YXN1YXN1YXN2YXL1YX
  L2YXL1YXL2XeI4ZpRBXgK5YXN1YXN1YXN1YXN8YXNXKmF4azTDacRXBbCZiHDYZ0NXgK1XvU1XtA1YXN1YXL1boT3YXL1boT
  2YXL3YXL2YXL2YXL1boS3YXL1XwC1YXN1XgK1XgK1YXN1YzO1YXN2boT2YXN1YXN1YXN1YXN2YXL1YXL2YXL1YXL2XeI4ZpR
  BXgK5YXN1YXN1YXN1YXN8YXNXKmF4azTDacRXBbCZiHDYZJNXgK1Xw01XtA1YXN1YXL1boT3YXL1boT2YXL3YXL2YXL2YXL1
  boS3YXL1XwC1YXN1XgK1XgK1YXN1YzO1YXN2boT2YXN1YXN1YXN1YXN2YXL1YXL2YXL1YXL2XeI4ZpRBXgK5YXN1YXN1YXN1
  YXN8YXNXKmF4azTDacRXBbCZiHDYZLNXgK1Xw11XtA1YXN1YXL1boT3YXL1boT2YXL3YXL2YXL2YXL1boS3YXL1XwC1YXN1X
  gK1XgK1YXN1YzO1YXN2boT2YXN1YXN1YXN1YXN2YXL1YXL2YXL1YXL2XeI4ZpRBXgK5YXN1YXN1YXN1YXN8YXNXKmF4azTDa
  cRXBbCZiHDYZMNXgK1Xw21XtA1YXN1YXL1boT3YXL1boT2YXL3YXL2YXL2YXL1boS3YXL1XwC1YXN1XgK1XgK1YXN1YzO1YX
  N2boT2YXN1YXN1YXN1YXN2YXL1YXL2YXL1YXL2XeI4ZpRBXgK5YXN1YXN1YXN1YXN8YXNXKmF4azTDacRXBbCZo6DXpINXc7
  1YlV1XkV1XpC1XpB1bgT3XpB1bgT2XpB3XpB2XpB2XpB1bmV3XpB1XlG1XpC1Xc71Xc71XpC1YzA1XpC2bgT2XpC1XpC1XpC
  1XpC2XpB1XpB2XpB1XpB2XeI4ZpRBXc75XpC1XpC1XpC1XpC8XpCXKn64azTDagAXBbCZo6DXpSNXc71Ym31XkV1XpC1XpB1
  bgT3XpB1bgT2XpB3XpB2XpB2XpB1bmV3XpB1XlG1XpC1Xc71Xc71XpC1YzA1XpC2bgT2XpC1XpC1XpC1XpC2XpB1XpB2XpB1
  XpB2XeI4ZpRBXc75XpC1XpC1XpC1XpC8XpCXKn64azTDagAXBbCZo6DXq0NXc71YmG1XkV1XpC1XpB1bgT3XpB1bgT2XpB3X
  pB2XpB2XpB1bmV3XpB1XlG1XpC1Xc71Xc71XpC1YzA1XpC2bgT2XpC1XpC1XpC1XpC2XpB1XpB2XpB1XpB2XeI4ZpRBXc75X
  pC1XpC1XpC1XpC8XpCXKn64azTDagAXBbCZo6DXq8NXc71YmI1XkV1XpC1XpB1bgT3XpB1bgT2XpB3XpB2XpB2XpB1bmV3Xp
  B1XlG1XpC1Xc71Xc71XpC1YzA1XpC2bgT2XpC1XpC1XpC1XpC2XpB1XpB2XpB1XpB2XeI4ZpRBXc75XpC1XpC1XpC1XpC8Xp
  CXKn64azTDagAXBbCZo6DXqANXc71YmJ1XkV1XpC1XpB1bgT3XpB1bgT2XpB3XpB2XpB2XpB1bmV3XpB1XlG1XpC1Xc71Xc7
  1XpC1YzA1XpC2bgT2XpC1XpC1XpC1XpC2XpB1XpB2XpB1XpB2XeI4ZpRBXc75XpC1XpC1XpC1XpC8XpCXKn64azTDagAXBbC
  Zo6DXqBNXc71YmK1XkV1XpC1XpB1bgT3XpB1bgT2XpB3XpB2XpB2XpB1bmV3XpB1XlG1XpC1Xc71Xc71XpC1YzA1XpC2bgT2
  XpC1XpC1XpC1XpC2XpB1XpB2XpB1XpB2XeI4ZpRBXc75XpC1XpC1XpC1XpC8XpCXKn64azTDagAXBbCZo6DXpINXhF1YWN1X
  kV1XpC1XpB1bp33XpB1bp32XpB3XpB2XpB2XpB1bn73XpB1XlG1XpC1XhF1XhF1XpC1YzF1XpC2bp32XpC1XpC1XpC1XpC2X
  pB1XpB2XpB1XpB2XeI4ZpRBXhF5XpC1XpC1XpC1XpC8XpCXKo04azTDagAXBbCZo6DXpSNXhF1YWR1XkV1XpC1XpB1bp33Xp
  B1bp32XpB3XpB2XpB2XpB1bn73XpB1XlG1XpC1XhF1XhF1XpC1YzF1XpC2bp32XpC1XpC1XpC1XpC2XpB1XpB2XpB1XpB2Xe
  I4ZpRBXhF5XpC1XpC1XpC1XpC8XpCXKo04azTDagAXBbCZo6DXq0NXhF1YX81XkV1XpC1XpB1bp33XpB1bp32XpB3XpB2XpB
  2XpB1bn73XpB1XlG1XpC1XhF1XhF1XpC1YzF1XpC2bp32XpC1XpC1XpC1XpC2XpB1XpB2XpB1XpB2XeI4ZpRBXhF5XpC1XpC
  1XpC1XpC8XpCXKo04azTDagAXBbCZo6DXq8NXhF1YXA1XkV1XpC1XpB1bp33XpB1bp32XpB3XpB2XpB2XpB1bn73XpB1XlG1
  XpC1XhF1XhF1XpC1YzF1XpC2bp32XpC1XpC1XpC1XpC2XpB1XpB2XpB1XpB2XeI4ZpRBXhF5XpC1XpC1XpC1XpC8XpCXKo04
  azTDagAXBbCZo6DXqANXhF1YXB1XkV1XpC1XpB1bp33XpB1bp32XpB3XpB2XpB2XpB1bn73XpB1XlG1XpC1XhF1XhF1XpC1Y
  zF1XpC2bp32XpC1XpC1XpC1XpC2XpB1XpB2XpB1XpB2XeI4ZpRBXhF5XpC1XpC1XpC1XpC8XpCXKo04azTDagAXBbCZo6DXq
  BNXhF1YXC1XkV1XpC1XpB1bp33XpB1bp32XpB3XpB2XpB2XpB1bn73XpB1XlG1XpC1XhF1XhF1XpC1YzF1XpC2bp32XpC1Xp
  C1XpC1XpC2XpB1XpB2XpB1XpB2XeI4ZpRBXhF5XpC1XpC1XpC1XpC8XpCXKo04azTDagAXBbCZo6DXpINXjA1YhH1XkV1XpC
  1XpB1bp53XpB1bp52XpB3XpB2XpB2XpB1bnF3XpB1XlG1XpC1XjA1XjA1XpC1YzK1XpC2bp52XpC1XpC1XpC1XpC2XpB1XpB
  2XpB1XpB2XeI4ZpRBXjA5XpC1XpC1XpC1XpC8XpCXKoP4azTDagAXBbCZo6DXpSNXjA1YhL1XkV1XpC1XpB1bp53XpB1bp52
  XpB3XpB2XpB2XpB1bnF3XpB1XlG1XpC1XjA1XjA1XpC1YzK1XpC2bp52XpC1XpC1XpC1XpC2XpB1XpB2XpB1XpB2XeI4ZpRB
  XjA5XpC1XpC1XpC1XpC8XpCXKoP4azTDagAXBbCZo6DXq0NXjA1Yi21XkV1XpC1XpB1bp53XpB1bp52XpB3XpB2XpB2XpB1b
  nF3XpB1XlG1XpC1XjA1XjA1XpC1YzK1XpC2bp52XpC1XpC1XpC1XpC2XpB1XpB2XpB1XpB2XeI4ZpRBXjA5XpC1XpC1XpC1X
  pC8XpCXKoP4azTDagAXBbCZo6DXq8NXjA1Yi41XkV1XpC1XpB1bp53XpB1bp52XpB3XpB2XpB2XpB1bnF3XpB1XlG1XpC1Xj
  A1XjA1XpC1YzK1XpC2bp52XpC1XpC1XpC1XpC2XpB1XpB2XpB1XpB2XeI4ZpRBXjA5XpC1XpC1XpC1XpC8XpCXKoP4azTDag
  AXBbCZo6DXqANXjA1Yi51XkV1XpC1XpB1bp53XpB1bp52XpB3XpB2XpB2XpB1bnF3XpB1XlG1XpC1XjA1XjA1XpC1YzK1XpC
  2bp52XpC1XpC1XpC1XpC2XpB1XpB2XpB1XpB2XeI4ZpRBXjA5XpC1XpC1XpC1XpC8XpCXKoP4azTDagAXBbCZo6DXqBNXjA1
  Yi61XkV1XpC1XpB1bp53XpB1bp52XpB3XpB2XpB2XpB1bnF3XpB1XlG1XpC1XjA1XjA1XpC1YzK1XpC2bp52XpC1XpC1XpC1
  XpC2XpB1XpB2XpB1XpB2XeI4ZpRBXjA5XpC1XpC1XpC1XpC8XpCXKoP4azTDagAXBbCZo6DXpINXjB1YiB1XkV1XpC1XpB1b
  p73XpB1bp72XpB3XpB2XpB2XpB1bnM3XpB1XlG1XpC1XjB1XjB1XpC1YzL1XpC2bp72XpC1XpC1XpC1XpC2XpB1XpB2XpB1X
  pB2XeI4ZpRBXjB5XpC1XpC1XpC1XpC8XpCXKpI4azTDagAXBbCZo6DXpSNXjB1YiF1XkV1XpC1XpB1bp73XpB1bp72XpB3Xp
  B2XpB2XpB1bnM3XpB1XlG1XpC1XjB1XjB1XpC1YzL1XpC2bp72XpC1XpC1XpC1XpC2XpB1XpB2XpB1XpB2XeI4ZpRBXjB5Xp
  C1XpC1XpC1XpC8XpCXKpI4azTDagAXBbCZo6DXq0NXjB1YiS1XkV1XpC1XpB1bp73XpB1bp72XpB3XpB2XpB2XpB1bnM3XpB
  1XlG1XpC1XjB1XjB1XpC1YzL1XpC2bp72XpC1XpC1XpC1XpC2XpB1XpB2XpB1XpB2XeI4ZpRBXjB5XpC1XpC1XpC1XpC8XpC
  XKpI4azTDagAXBbCZo6DXq8NXjB1YiU1XkV1XpC1XpB1bp73XpB1bp72XpB3XpB2XpB2XpB1bnM3XpB1XlG1XpC1XjB1XjB1
  XpC1YzL1XpC2bp72XpC1XpC1XpC1XpC2XpB1XpB2XpB1XpB2XeI4ZpRBXjB5XpC1XpC1XpC1XpC8XpCXKpI4azTDagAXBbCZ
  o6DXqANXjB1YiV1XkV1XpC1XpB1bp73XpB1bp72XpB3XpB2XpB2XpB1bnM3XpB1XlG1XpC1XjB1XjB1XpC1YzL1XpC2bp72X
  pC1XpC1XpC1XpC2XpB1XpB2XpB1XpB2XeI4ZpRBXjB5XpC1XpC1XpC1XpC8XpCXKpI4azTDagAXBbCZo6DXqBNXjB1Yj01Xk
  V1XpC1XpB1bp73XpB1bp72XpB3XpB2XpB2XpB1bnM3XpB1XlG1XpC1XjB1XjB1XpC1YzL1XpC2bp72XpC1XpC1XpC1XpC2Xp
  B1XpB2XpB1XpB2XeI4ZpRBXjB5XpC1XpC1XpC1XpC8XpCXKpI4azTDagAXBbCZo6DXpINXjD1YjH1XkV1XpC1XpB1bp83XpB
  1bp82XpB3XpB2XpB2XpB1bnS3XpB1XlG1XpC1XjD1XjD1XpC1YzM1XpC2bp82XpC1XpC1XpC1XpC2XpB1XpB2XpB1XpB2XeI
  4ZpRBXjD5XpC1XpC1XpC1XpC8XpCXKqA4azTDagAXBbCZo6DXpSNXjD1YjL1XkV1XpC1XpB1bp83XpB1bp82XpB3XpB2XpB2
  XpB1bnS3XpB1XlG1XpC1XjD1XjD1XpC1YzM1XpC2bp82XpC1XpC1XpC1XpC2XpB1XpB2XpB1XpB2XeI4ZpRBXjD5XpC1XpC1
  XpC1XpC8XpCXKqA4azTDagAXBbCZo6DXq0NXjD1Yk21XkV1XpC1XpB1bp83XpB1bp82XpB3XpB2XpB2XpB1bnS3XpB1XlG1X
  pC1XjD1XjD1XpC1YzM1XpC2bp82XpC1XpC1XpC1XpC2XpB1XpB2XpB1XpB2XeI4ZpRBXjD5XpC1XpC1XpC1XpC8XpCXKqA4a
  zTDagAXBbCZo6DXq8NXjD1Yk41XkV1XpC1XpB1bp83XpB1bp82XpB3XpB2XpB2XpB1bnS3XpB1XlG1XpC1XjD1XjD1XpC1Yz
  M1XpC2bp82XpC1XpC1XpC1XpC2XpB1XpB2XpB1XpB2XeI4ZpRBXjD5XpC1XpC1XpC1XpC8XpCXKqA4azTDagAXBbCZo6DXqA
  NXjD1Yk51XkV1XpC1XpB1bp83XpB1bp82XpB3XpB2XpB2XpB1bnS3XpB1XlG1XpC1XjD1XjD1XpC1YzM1XpC2bp82XpC1XpC
  1XpC1XpC2XpB1XpB2XpB1XpB2XeI4ZpRBXjD5XpC1XpC1XpC1XpC8XpCXKqA4azTDagAXBbCZo6DXqBNXjD1Yk61XkV1XpC1
  XpB1bp83XpB1bp82XpB3XpB2XpB2XpB1bnS3XpB1XlG1XpC1XjD1XjD1XpC1YzM1XpC2bp82XpC1XpC1XpC1XpC2XpB1XpB2
  XpB1XpB2XeI4ZpRBXjD5XpC1XpC1XpC1XpC8XpCXKqA4azTDagAXAbCZiHX4XfR1XtD1XtA1YXN1YXL1bd73YXL1bd72YXL3
  YXL2YXL2YXL1bd63YXL1XwC1YXN1XfR1XfR1YXN1YwJ1YXN2bd72YXN1YXN1YXN1YXN2YXL1YXL2YXL1YXL2XeI4ZpRBXfR5
  YXN1YXN1YXN1YXN8YXNXKiE4azTDacRXAbCZo6X4XjE1Yo71XkV1XpC1XpB1bdN3XpB1bdN2XpB3XpB2XpB2XpB1bmV3XpB1
  XlG1XpC1XjE1XjE1XpC1YzA1XpC2bdN2XpC1XpC1XpC1XpC2XpB1XpB2XpB1XpB2XeI4ZpRBXjE5XpC1XpC1XpC1XpC8XpCX
  Kn64azTDagAXAbCZiHX4XfR1XtF1XtA1YXN1YXL1bd73YXL1bd72YXL3YXL2YXL2YXL1bd63YXL1XwC1YXN1XfR1XfR1YXN1
  YwJ1YXN2bd72YXN1YXN1YXN1YXN2YXL1YXL2YXL1YXL2XeI4ZpRBXfR5YXN1YXN1YXN1YXN8YXNXKiE4azTDacRXAbCZiHX4
  XfR1XtG1XtA1YXN1YXL1bd73YXL1bd72YXL3YXL2YXL2YXL1bd63YXL1XwC1YXN1XfR1XfR1YXN1YwJ1YXN2bd72YXN1YXN1
  YXN1YXN2YXL1YXL2YXL1YXL2XeI4ZpRBXfR5YXN1YXN1YXN1YXN8YXNXKiE4azTDacRXAbCZiHX4XfR1YY11XtA1YXN1YXL1
  bd73YXL1bd72YXL3YXL2YXL2YXL1bd63YXL1XwC1YXN1XfR1XfR1YXN1YwJ1YXN2bd72YXN1YXN1YXN1YXN2YXL1YXL2YXL1
  YXL2XeI4ZpRBXfR5YXN1YXN1YXN1YXN8YXNXKiE4azTDacRXAbCZiHX4XfR1XtI1XtA1YXN1YXL1bd73YXL1bd72YXL3YXL2
  YXL2YXL1bd63YXL1XwC1YXN1XfR1XfR1YXN1YwJ1YXN2bd72YXN1YXN1YXN1YXN2YXL1YXL2YXL1YXL2XeI4ZpRBXfR5YXN1
  YXN1YXN1YXN8YXNXKiE4azTDacRLb7azV1acN3vCBvB1vBX5vB3vB2vBRXeIIvBAvB1vB1vB1vD2vB2vB2vB3vBXSZuA5ai3
  1ai4XAbCZo6X4XfM1YY51XkV1XpC1XpB1ZuL3XpB1ZuL2XpB3XpB2XpB2XpB1bmM3XpB1XlG1XpC1XfV1XfV1XpC1Yz51XpC
  2ZuL2XpC1XpC1XpC1XpC2XpB1XpB2XpB1XpB2XeI4ZpRBXfV5XpC1XpC1XpC1XpC8XpCXKlK4azTDagAXAbCZo6X4Xc71Yo7
  1XkV1XpC1XpB1ZpJ3XpB1ZpJ2XpB3XpB2XpB2XpB1bmV3XpB1XlG1XpC1XdR1XdR1XpC1YzA1XpC2ZpJ2XpC1XpC1XpC1XpC
  2XpB1XpB2XpB1XpB2XeI4ZpRBXdR5XpC1XpC1XpC1XpC8XpCXKn64azTDagAXAbCZiHX4XfR1XtJ1XtA1YXN1YXL1bd73YXL
  1bd72YXL3YXL2YXL2YXL1bd63YXL1XwC1YXN1XfR1XfR1YXN1YwJ1YXN2bd72YXN1YXN1YXN1YXN2YXL1YXL2YXL1YXL2XeI
  4ZpRBXfR5YXN1YXN1YXN1YXN8YXNXKiE4azTDacRXAbCZiHX4XfR1XtK1XtA1YXN1YXL1bd73YXL1bd72YXL3YXL2YXL2YXL
  1bd63YXL1XwC1YXN1XfR1XfR1YXN1YwJ1YXN2bd72YXN1YXN1YXN1YXN2YXL1YXL2YXL1YXL2XeI4ZpRBXfR5YXN1YXN1YXN
  1YXN8YXNXKiE4azTDacRXAbCZiHX4XfR1XtM1XtA1YXN1YXL1bd73YXL1bd72YXL3YXL2YXL2YXL1bd63YXL1XwC1YXN1XfR
  1XfR1YXN1YwJ1YXN2bd72YXN1YXN1YXN1YXN2YXL1YXL2YXL1YXL2XeI4ZpRBXfR5YXN1YXN1YXN1YXN8YXNXKiE4azTDacR
  XAbCZo6X4XjA1YkJ1XkV1XpC1XpB1bp53XpB1bp52XpB3XpB2XpB2XpB1bnF3XpB1XlG1XpC1XjA1XjA1XpC1YzK1XpC2bp5
  2XpC1XpC1XpC1XpC2XpB1XpB2XpB1XpB2XeI4ZpRBXjA5XpC1XpC1XpC1XpC8XpCXKoP4azTDagAXAbCZiHX4XfR1XtO1XtA
  1YXN1YXL1bd73YXL1bd72YXL3YXL2YXL2YXL1bd63YXL1XwC1YXN1XfR1XfR1YXN1YwJ1YXN2bd72YXN1YXN1YXN1YXN2YXL
  1YXL2YXL1YXL2XeI4ZpRBXfR5YXN1YXN1YXN1YXN8YXNXKiE4azTDacRXAbCZiHX4XfR1YYT1XtA1YXN1YXL1bd73YXL1bd7
  2YXL3YXL2YXL2YXL1bd63YXL1XwC1YXN1XfR1XfR1YXN1YwJ1YXN2bd72YXN1YXN1YXN1YXN2YXL1YXL2YXL1YXL2XeI4ZpR
  BXfR5YXN1YXN1YXN1YXN8YXNXKiE4azTDacRXAbCZiHX4XfR1XtP1XtA1YXN1YXL1bd73YXL1bd72YXL3YXL2YXL2YXL1bd6
  3YXL1XwC1YXN1XfR1XfR1YXN1YwJ1YXN2bd72YXN1YXN1YXN1YXN2YXL1YXL2YXL1YXL2XeI4ZpRBXfR5YXN1YXN1YXN1YXN
  8YXNXKiE4azTDacRXAbCZiHX4XfR1XtQ1XtA1YXN1YXL1bd73YXL1bd72YXL3YXL2YXL2YXL1bd63YXL1XwC1YXN1XfR1XfR
  1YXN1YwJ1YXN2bd72YXN1YXN1YXN1YXN2YXL1YXL2YXL1YXL2XeI4ZpRBXfR5YXN1YXN1YXN1YXN8YXNXKiE4azTDacRXAbC
  ZiHX4XfR1XtR1XtA1YXN1YXL1bd73YXL1bd72YXL3YXL2YXL2YXL1bd63YXL1XwC1YXN1XfR1XfR1YXN1YwJ1YXN2bd72YXN
  1YXN1YXN1YXN2YXL1YXL2YXL1YXL2XeI4ZpRBXfR5YXN1YXN1YXN1YXN8YXNXKiE4azTDacRXAbCZiHX4XfR1XtS1XtA1YXN
  1YXL1bd73YXL1bd72YXL3YXL2YXL2YXL1bd63YXL1XwC1YXN1XfR1XfR1YXN1YwJ1YXN2bd72YXN1YXN1YXN1YXN2YXL1YXL
  2YXL1YXL2XeI4ZpRBXfR5YXN1YXN1YXN1YXN8YXNXKiE4azTDacRXAbCZiHX4XfR1XtT1XtA1YXN1YXL1bd73YXL1bd72YXL
  3YXL2YXL2YXL1bd63YXL1XwC1YXN1XfR1XfR1YXN1YwJ1YXN2bd72YXN1YXN1YXN1YXN2YXL1YXL2YXL1YXL2XeI4ZpRBXfR
  5YXN1YXN1YXN1YXN8YXNXKiE4azTDacRXAbCZiHX4XfR1XtU1XtA1YXN1YXL1bd73YXL1bd72YXL3YXL2YXL2YXL1bd63YXL
  1XwC1YXN1XfR1XfR1YXN1YwJ1YXN2bd72YXN1YXN1YXN1YXN2YXL1YXL2YXL1YXL2XeI4ZpRBXfR5YXN1YXN1YXN1YXN8YXN
  XKiE4azTDacRXAbCZiHX4XfR1XtV1XtA1YXN1YXL1bd73YXL1bd72YXL3YXL2YXL2YXL1bd63YXL1XwC1YXN1XfR1XfR1YXN
  1YwJ1YXN2bd72YXN1YXN1YXN1YXN2YXL1YXL2YXL1YXL2XeI4ZpRBXfR5YXN1YXN1YXN1YXN8YXNXKiE4azTDacRXAbCZiHX
  4XfR1Xu01XtA1YXN1YXL1bd73YXL1bd72YXL3YXL2YXL2YXL1bd63YXL1XwC1YXN1XfR1XfR1YXN1YwJ1YXN2bd72YXN1YXN
  1YXN1YXN2YXL1YXL2YXL1YXL2XeI4ZpRBXfR5YXN1YXN1YXN1YXN8YXNXKiE4azTDacRXAbCZiHX4XfR1Xu11XtA1YXN1YXL
  1bd73YXL1bd72YXL3YXL2YXL2YXL1bd63YXL1XwC1YXN1XfR1XfR1YXN1YwJ1YXN2bd72YXN1YXN1YXN1YXN2YXL1YXL2YXL
  1YXL2XeI4ZpRBXfR5YXN1YXN1YXN1YXN8YXNXKiE4azTDacRXAbCZiHX4XfR1Xu21XtA1YXN1YXL1bd73YXL1bd72YXL3YXL
  2YXL2YXL1bd63YXL1XwC1YXN1XfR1XfR1YXN1YwJ1YXN2bd72YXN1YXN1YXN1YXN2YXL1YXL2YXL1YXL2XeI4ZpRBXfR5YXN
  1YXN1YXN1YXN8YXNXKiE4azTDacRXAbCZiHX4XfR1Xu41XtA1YXN1YXL1bd73YXL1bd72YXL3YXL2YXL2YXL1bd63YXL1XwC
  1YXN1XfR1XfR1YXN1YwJ1YXN2bd72YXN1YXN1YXN1YXN2YXL1YXL2YXL1YXL2XeI4ZpRBXfR5YXN1YXN1YXN1YXN8YXNXKiE
  4azTDacRXAbCZiHX4XfR1Xx01XtA1YXN1YXL1bd73YXL1bd72YXL3YXL2YXL2YXL1bd63YXL1XwC1YXN1XfR1XfR1YXN1YwJ
  1YXN2bd72YXN1YXN1YXN1YXN2YXL1YXL2YXL1YXL2XeI4ZpRBXfR5YXN1YXN1YXN1YXN8YXNXKiE4azTDacRXAbCZo6X4XjB
  1YkK1XkV1XpC1XpB1bp73XpB1bp72XpB3XpB2XpB2XpB1bnM3XpB1XlG1XpC1XjB1XjB1XpC1YzL1XpC2bp72XpC1XpC1XpC
  1XpC2XpB1XpB2XpB1XpB2XeI4ZpRBXjB5XpC1XpC1XpC1XpC8XpCXKpI4azTDagAXAbCZiHX4XfR1Xx11XtA1YXN1YXL1bd7
  3YXL1bd72YXL3YXL2YXL2YXL1bd63YXL1XwC1YXN1XfR1XfR1YXN1YwJ1YXN2bd72YXN1YXN1YXN1YXN2YXL1YXL2YXL1YXL
  2XeI4ZpRBXfR5YXN1YXN1YXN1YXN8YXNXKiE4azTDacRXAbCZiHX4XfR1Xx21XtA1YXN1YXL1bd73YXL1bd72YXL3YXL2YXL
  2YXL1bd63YXL1XwC1YXN1XfR1XfR1YXN1YwJ1YXN2bd72YXN1YXN1YXN1YXN2YXL1YXL2YXL1YXL2XeI4ZpRBXfR5YXN1YXN
  1YXN1YXN8YXNXKiE4azTDacRXAbCZiHX4XfR1Xx31XtA1YXN1YXL1bd73YXL1bd72YXL3YXL2YXL2YXL1bd63YXL1XwC1YXN
  1XfR1XfR1YXN1YwJ1YXN2bd72YXN1YXN1YXN1YXN2YXL1YXL2YXL1YXL2XeI4ZpRBXfR5YXN1YXN1YXN1YXN8YXNXKiE4azT
  DacRXAbCZiHX4XfR1YZ71XtA1YXN1YXL1bd73YXL1bd72YXL3YXL2YXL2YXL1bd63YXL1XwC1YXN1XfR1XfR1YXN1YwJ1YXN
  2bd72YXN1YXN1YXN1YXN2YXL1YXL2YXL1YXL2XeI4ZpRBXfR5YXN1YXN1YXN1YXN8YXNXKiE4azTDacRXAbCZo6X4XfM1YZE
  1XkV1XpC1XpB1boQ3XpB1boQ2XpB3XpB2XpB2XpB1bmM3XpB1XlG1XpC1XfM1XfM1XpC1Yz51XpC2boQ2XpC1XpC1XpC1XpC
  2XpB1XpB2XpB1XpB2XeI4ZpRBXfM5XpC1XpC1XpC1XpC8XpCXKlK4azTDagAXAbCZiHX4XfR1Xu91XtA1YXN1YXL1bd73YXL
  1bd72YXL3YXL2YXL2YXL1bd63YXL1XwC1YXN1XfR1XfR1YXN1YwJ1YXN2bd72YXN1YXN1YXN1YXN2YXL1YXL2YXL1YXL2XeI
  4ZpRBXfR5YXN1YXN1YXN1YXN8YXNXKiE4azTDacRXAbCZiHX4XfR1XuA1XtA1YXN1YXL1bd73YXL1bd72YXL3YXL2YXL2YXL
  1bd63YXL1XwC1YXN1XfR1XfR1YXN1YwJ1YXN2bd72YXN1YXN1YXN1YXN2YXL1YXL2YXL1YXL2XeI4ZpRBXfR5YXN1YXN1YXN
  1YXN8YXNXKiE4azTDacRXAbCZo6X4XgV1Yj41XkV1XpC1XpB1bmN3XpB1bmN2XpB3XpB2XpB2XpB1bgS3XpB1XlG1XpC1XgV
  1XgV1XpC1Yz01XpC2bmN2XpC1XpC1XpC1XpC2XpB1XpB2XpB1XpB2XeI4ZpRBXgV5XpC1XpC1XpC1XpC8XpCXKjN4azTDagA
  XAbCZo6X4XfM1YfR1XkV1XpC1XpB1boQ3XpB1boQ2XpB3XpB2XpB2XpB1bmM3XpB1XlG1XpC1XfM1XfM1XpC1Yz51XpC2boQ
  2XpC1XpC1XpC1XpC2XpB1XpB2XpB1XpB2XeI4ZpRBXfM5XpC1XpC1XpC1XpC8XpCXKlK4azTDagAXAbCZo6X4XfM1YfS1XkV
  1XpC1XpB1boQ3XpB1boQ2XpB3XpB2XpB2XpB1bmM3XpB1XlG1XpC1XfM1XfM1XpC1Yz51XpC2boQ2XpC1XpC1XpC1XpC2XpB
  1XpB2XpB1XpB2XeI4ZpRBXfM5XpC1XpC1XpC1XpC8XpCXKlK4azTDagAXAbCZiHX4XhN1YfU1XtA1YXN1YXL1bo43YXL1bo4
  2YXL3YXL2YXL2YXL1bo33YXL1XwC1YXN1XhN1XhN1YXN1YzN1YXN2bo42YXN1YXN1YXN1YXN2YXL1YXL2YXL1YXL2XeI4ZpR
  BXhN5YXN1YXN1YXN1YXN8YXNXKkR4azTDacRXAbCZiHX4XfR1XuG1XtA1YXN1YXL1bd73YXL1bd72YXL3YXL2YXL2YXL1bd6
  3YXL1XwC1YXN1XfR1XfR1YXN1YwJ1YXN2bd72YXN1YXN1YXN1YXN2YXL1YXL2YXL1YXL2XeI4ZpRBXfR5YXN1YXN1YXN1YXN
  8YXNXKiE4azTDacRXAbCZo6X4XfM1YfL1XkV1XpC1XpB1boQ3XpB1boQ2XpB3XpB2XpB2XpB1bmM3XpB1XlG1XpC1XfM1XfM
  1XpC1Yz51XpC2boQ2XpC1XpC1XpC1XpC2XpB1XpB2XpB1XpB2XeI4ZpRBXfM5XpC1XpC1XpC1XpC8XpCXKlK4azTDagAXAbC
  ZiHX4XfR1XxH1XtA1YXN1YXL1bd73YXL1bd72YXL3YXL2YXL2YXL1bd63YXL1XwC1YXN1XfR1XfR1YXN1YwJ1YXN2bd72YXN
  1YXN1YXN1YXN2YXL1YXL2YXL1YXL2XeI4ZpRBXfR5YXN1YXN1YXN1YXN8YXNXKiE4azTDacRXAbCZo6X4XgV1XxU1XkV1XpC
  1XpB1bmN3XpB1bmN2XpB3XpB2XpB2XpB1bgS3XpB1XlG1XpC1XgV1XgV1XpC1Yz01XpC2bmN2XpC1XpC1XpC1XpC2XpB1XpB
  2XpB1XpB2XeI4ZpRBXgV5XpC1XpC1XpC1XpC8XpCXKjN4azTDagAXAbCZo6X4XgV1XxV1XkV1XpC1XpB1bmN3XpB1bmN2XpB
  3XpB2XpB2XpB1bgS3XpB1XlG1XpC1XgV1XgV1XpC1Yz01XpC2bmN2XpC1XpC1XpC1XpC2XpB1XpB2XpB1XpB2XeI4ZpRBXgV
  5XpC1XpC1XpC1XpC8XpCXKjN4azTDagAXAbCZo6X4XgV1Xy11XkV1XpC1XpB1bmN3XpB1bmN2XpB3XpB2XpB2XpB1bgS3XpB
  1XlG1XpC1XgV1XgV1XpC1Yz01XpC2bmN2XpC1XpC1XpC1XpC2XpB1XpB2XpB1XpB2XeI4ZpRBXgV5XpC1XpC1XpC1XpC8XpC
  XKjN4azTDagAXAbCZo6X4XgV1Xy31XkV1XpC1XpB1bmN3XpB1bmN2XpB3XpB2XpB2XpB1bgS3XpB1XlG1XpC1XgV1XgV1XpC
  1Yz01XpC2bmN2XpC1XpC1XpC1XpC2XpB1XpB2XpB1XpB2XeI4ZpRBXgV5XpC1XpC1XpC1XpC8XpCXKjN4azTDagAXAbCZo6X
  4XgV1XyP1XkV1XpC1XpB1bmN3XpB1bmN2XpB3XpB2XpB2XpB1bgS3XpB1XlG1XpC1XgV1XgV1XpC1Yz01XpC2bmN2XpC1XpC
  1XpC1XpC2XpB1XpB2XpB1XpB2XeI4ZpRBXgV5XpC1XpC1XpC1XpC8XpCXKjN4azTDagAXAbCZo6X4XgV1XyR1XkV1XpC1XpB
  1bmN3XpB1bmN2XpB3XpB2XpB2XpB1bgS3XpB1XlG1XpC1XgV1XgV1XpC1Yz01XpC2bmN2XpC1XpC1XpC1XpC2XpB1XpB2XpB
  1XpB2XeI4ZpRBXgV5XpC1XpC1XpC1XpC8XpCXKjN4azTDagAXAbCZo6X4XgV1XyS1XkV1XpC1XpB1bmN3XpB1bmN2XpB3XpB
  2XpB2XpB1bgS3XpB1XlG1XpC1XgV1XgV1XpC1Yz01XpC2bmN2XpC1XpC1XpC1XpC2XpB1XpB2XpB1XpB2XeI4ZpRBXgV5XpC
  1XpC1XpC1XpC8XpCXKjN4azTDagAXAbCZo6X4XgV1Yg41XkV1XpC1XpB1bmN3XpB1bmN2XpB3XpB2XpB2XpB1bgS3XpB1XlG
  1XpC1XgV1XgV1XpC1Yz01XpC2bmN2XpC1XpC1XpC1XpC2XpB1XpB2XpB1XpB2XeI4ZpRBXgV5XpC1XpC1XpC1XpC8XpCXKjN
  4azTDagAXAbCZo6X4XgV1XyT1XkV1XpC1XpB1bmN3XpB1bmN2XpB3XpB2XpB2XpB1bgS3XpB1XlG1XpC1XgV1XgV1XpC1Yz0
  1XpC2bmN2XpC1XpC1XpC1XpC2XpB1XpB2XpB1XpB2XeI4ZpRBXgV5XpC1XpC1XpC1XpC8XpCXKjN4azTDagAXAbCZo6X4XgV
  1XyU1XkV1XpC1XpB1bmN3XpB1bmN2XpB3XpB2XpB2XpB1bgS3XpB1XlG1XpC1XgV1XgV1XpC1Yz01XpC2bmN2XpC1XpC1XpC
  1XpC2XpB1XpB2XpB1XpB2XeI4ZpRBXgV5XpC1XpC1XpC1XpC8XpCXKjN4azTDagAXAbCZo6X4XgV1XyV1XkV1XpC1XpB1bmN
  3XpB1bmN2XpB3XpB2XpB2XpB1bgS3XpB1XlG1XpC1XgV1XgV1XpC1Yz01XpC2bmN2XpC1XpC1XpC1XpC2XpB1XpB2XpB1XpB
  2XeI4ZpRBXgV5XpC1XpC1XpC1XpC8XpCXKjN4azTDagAXAbCZo6X4XgV1Xz01XkV1XpC1XpB1bmN3XpB1bmN2XpB3XpB2XpB
  2XpB1bgS3XpB1XlG1XpC1XgV1XgV1XpC1Yz01XpC2bmN2XpC1XpC1XpC1XpC2XpB1XpB2XpB1XpB2XeI4ZpRBXgV5XpC1XpC
  1XpC1XpC8XpCXKjN4azTDagAXAbCZo6X4XgV1Xz11XkV1XpC1XpB1bmN3XpB1bmN2XpB3XpB2XpB2XpB1bgS3XpB1XlG1XpC
  1XgV1XgV1XpC1Yz01XpC2bmN2XpC1XpC1XpC1XpC2XpB1XpB2XpB1XpB2XeI4ZpRBXgV5XpC1XpC1XpC1XpC8XpCXKjN4azT
  DagAXAbCZo6X4XgV1Xz21XkV1XpC1XpB1bmN3XpB1bmN2XpB3XpB2XpB2XpB1bgS3XpB1XlG1XpC1XgV1XgV1XpC1Yz01XpC
  2bmN2XpC1XpC1XpC1XpC2XpB1XpB2XpB1XpB2XeI4ZpRBXgV5XpC1XpC1XpC1XpC8XpCXKjN4azTDagAXAbCZo6X4XgV1Xz3
  1XkV1XpC1XpB1bmN3XpB1bmN2XpB3XpB2XpB2XpB1bgS3XpB1XlG1XpC1XgV1XgV1XpC1Yz01XpC2bmN2XpC1XpC1XpC1XpC
  2XpB1XpB2XpB1XpB2XeI4ZpRBXgV5XpC1XpC1XpC1XpC8XpCXKjN4azTDagAXAbCZo6X4XgV1Xz41XkV1XpC1XpB1bmN3XpB
  1bmN2XpB3XpB2XpB2XpB1bgS3XpB1XlG1XpC1XgV1XgV1XpC1Yz01XpC2bmN2XpC1XpC1XpC1XpC2XpB1XpB2XpB1XpB2XeI
  4ZpRBXgV5XpC1XpC1XpC1XpC8XpCXKjN4azTDagAXAbCZo6X4XgV1Xz51XkV1XpC1XpB1bmN3XpB1bmN2XpB3XpB2XpB2XpB
  1bgS3XpB1XlG1XpC1XgV1XgV1XpC1Yz01XpC2bmN2XpC1XpC1XpC1XpC2XpB1XpB2XpB1XpB2XeI4ZpRBXgV5XpC1XpC1XpC
  1XpC8XpCXKjN4azTDagAXAbCZo6X4XgV1Xz61XkV1XpC1XpB1bmN3XpB1bmN2XpB3XpB2XpB2XpB1bgS3XpB1XlG1XpC1XgV
  1XgV1XpC1Yz01XpC2bmN2XpC1XpC1XpC1XpC2XpB1XpB2XpB1XpB2XeI4ZpRBXgV5XpC1XpC1XpC1XpC8XpCXKjN4azTDagA
  XAbCZo6X4XgV1Xz81XkV1XpC1XpB1bmN3XpB1bmN2XpB3XpB2XpB2XpB1bgS3XpB1XlG1XpC1XgV1XgV1XpC1Yz01XpC2bmN
  2XpC1XpC1XpC1XpC2XpB1XpB2XpB1XpB2XeI4ZpRBXgV5XpC1XpC1XpC1XpC8XpCXKjN4azTDagAXAbCZo6X4XgV1Yg61XkV
  1XpC1XpB1bmN3XpB1bmN2XpB3XpB2XpB2XpB1bgS3XpB1XlG1XpC1XgV1XgV1XpC1Yz01XpC2bmN2XpC1XpC1XpC1XpC2XpB
  1XpB2XpB1XpB2XeI4ZpRBXgV5XpC1XpC1XpC1XpC8XpCXKjN4azTDagAXAbCZo6X4XgV1XzC1XkV1XpC1XpB1bmN3XpB1bmN
  2XpB3XpB2XpB2XpB1bgS3XpB1XlG1XpC1XgV1XgV1XpC1Yz01XpC2bmN2XpC1XpC1XpC1XpC2XpB1XpB2XpB1XpB2XeI4ZpR
  BXgV5XpC1XpC1XpC1XpC8XpCXKjN4azTDagAXAbCZo6X4XgV1XzD1XkV1XpC1XpB1bmN3XpB1bmN2XpB3XpB2XpB2XpB1bgS
  3XpB1XlG1XpC1XgV1XgV1XpC1Yz01XpC2bmN2XpC1XpC1XpC1XpC2XpB1XpB2XpB1XpB2XeI4ZpRBXgV5XpC1XpC1XpC1XpC
  8XpCXKjN4azTDagAXAbCZo6X4XgV1X_11XkV1XpC1XpB1bmN3XpB1bmN2XpB3XpB2XpB2XpB1bgS3XpB1XlG1XpC1XgV1XgV
  1XpC1Yz01XpC2bmN2XpC1XpC1XpC1XpC2XpB1XpB2XpB1XpB2XeI4ZpRBXgV5XpC1XpC1XpC1XpC8XpCXKjN4azTDagAXAbC
  Zo6X4XgV1XxK1XkV1XpC1XpB1bmN3XpB1bmN2XpB3XpB2XpB2XpB1bgS3XpB1XlG1XpC1XgV1XgV1XpC1Yz01XpC2bmN2XpC
  1XpC1XpC1XpC2XpB1XpB2XpB1XpB2XeI4ZpRBXgV5XpC1XpC1XpC1XpC8XpCXKjN4azTDagALb7azV1acN3vCBvB1vBX5vB3
  vB2vBRXeIIvBAvB1vB1vB1vD2vB2vB2vB3vBXSZuA5ax51ai4XAbCZiHX4XgK1X_V1XtA1YXN1YXL1boT3YXL1boT2YXL3YX
  L2YXL2YXL1boS3YXL1XwC1YXN1XgK1XgK1YXN1YzO1YXN2boT2YXN1YXN1YXN1YXN2YXL1YXL2YXL1YXL2XeI4ZpRBXgK5YX
  N1YXN1YXN1YXN8YXNXKmF4azTDacRXAbCZo6X4XjD1YlF1XkV1XpC1XpB1bp83XpB1bp82XpB3XpB2XpB2XpB1bnS3XpB1Xl
  G1XpC1XjD1XjD1XpC1YzM1XpC2bp82XpC1XpC1XpC1XpC2XpB1XpB2XpB1XpB2XeI4ZpRBXjD5XpC1XpC1XpC1XpC8XpCXKq
  A4azTDagAXAbCZo6X4XjF1Yo71XkV1XpC1XpB1bh43XpB1bh42XpB3XpB2XpB2XpB1bmV3XpB1XlG1XpC1XjF1XjF1XpC1Yz
  A1XpC2bh42XpC1XpC1XpC1XpC2XpB1XpB2XpB1XpB2XeI4ZpRBXjF5XpC1XpC1XpC1XpC8XpCXKn64azTDagAXAbCZiHX4Xg
  K1XwA1XtA1YXN1YXL1boT3YXL1boT2YXL3YXL2YXL2YXL1boS3YXL1XwC1YXN1XgK1XgK1YXN1YzO1YXN2boT2YXN1YXN1YX
  N1YXN2YXL1YXL2YXL1YXL2XeI4ZpRBXgK5YXN1YXN1YXN1YXN8YXNXKmF4azTDacRXAbCZiHX4XhN1YdO1XtA1YXN1YXL1bo
  43YXL1bo42YXL3YXL2YXL2YXL1bo33YXL1XwC1YXN1XhN1XhN1YXN1YzN1YXN2bo42YXN1YXN1YXN1YXN2YXL1YXL2YXL1YX
  L2XeI4ZpRBXhN5YXN1YXN1YXN1YXN8YXNXKkR4azTDacRXAbCZiHX4XhN1YdQ1XtA1YXN1YXL1bo43YXL1bo42YXL3YXL2YX
  L2YXL1bo33YXL1XwC1YXN1XhN1XhN1YXN1YzN1YXN2bo42YXN1YXN1YXN1YXN2YXL1YXL2YXL1YXL2XeI4ZpRBXhN5YXN1YX
  N1YXN1YXN8YXNXKkR4azTDacRXAbCZiHX4XhN1YdR1XtA1YXN1YXL1bo43YXL1bo42YXL3YXL2YXL2YXL1bo33YXL1XwC1YX
  N1XhN1XhN1YXN1YzN1YXN2bo42YXN1YXN1YXN1YXN2YXL1YXL2YXL1YXL2XeI4ZpRBXhN5YXN1YXN1YXN1YXN8YXNXKkR4az
  TDacRXAbCZiHX4XhN1YdS1XtA1YXN1YXL1bo43YXL1bo42YXL3YXL2YXL2YXL1bo33YXL1XwC1YXN1XhN1XhN1YXN1YzN1YX
  N2bo42YXN1YXN1YXN1YXN2YXL1YXL2YXL1YXL2XeI4ZpRBXhN5YXN1YXN1YXN1YXN8YXNXKkR4azTDacRXAbCZiHX4XhN1Yd
  U1XtA1YXN1YXL1bo43YXL1bo42YXL3YXL2YXL2YXL1bo33YXL1XwC1YXN1XhN1XhN1YXN1YzN1YXN2bo42YXN1YXN1YXN1YX
  N2YXL1YXL2YXL1YXL2XeI4ZpRBXhN5YXN1YXN1YXN1YXN8YXNXKkR4azTDacRXAbCZo6X4XjA1YlS1XkV1XpC1XpB1bp53Xp
  B1bp52XpB3XpB2XpB2XpB1bnF3XpB1XlG1XpC1XjA1XjA1XpC1YzK1XpC2bp52XpC1XpC1XpC1XpC2XpB1XpB2XpB1XpB2Xe
  I4ZpRBXjA5XpC1XpC1XpC1XpC8XpCXKoP4azTDagAXAbCZiHX4XhN1Ye01XtA1YXN1YXL1bo43YXL1bo42YXL3YXL2YXL2YX
  L1bo33YXL1XwC1YXN1XhN1XhN1YXN1YzN1YXN2bo42YXN1YXN1YXN1YXN2YXL1YXL2YXL1YXL2XeI4ZpRBXhN5YXN1YXN1YX
  N1YXN8YXNXKkR4azTDacRXAbCZiHX4XhN1Ye21XtA1YXN1YXL1bo43YXL1bo42YXL3YXL2YXL2YXL1bo33YXL1XwC1YXN1Xh
  N1XhN1YXN1YzN1YXN2bo42YXN1YXN1YXN1YXN2YXL1YXL2YXL1YXL2XeI4ZpRBXhN5YXN1YXN1YXN1YXN8YXNXKkR4azTDac
  RXAbCZiHX4XhN1Ye31XtA1YXN1YXL1bo43YXL1bo42YXL3YXL2YXL2YXL1bo33YXL1XwC1YXN1XhN1XhN1YXN1YzN1YXN2bo
  42YXN1YXN1YXN1YXN2YXL1YXL2YXL1YXL2XeI4ZpRBXhN5YXN1YXN1YXN1YXN8YXNXKkR4azTDacRXAbCZiHX4XhN1Ye41Xt
  A1YXN1YXL1bo43YXL1bo42YXL3YXL2YXL2YXL1bo33YXL1XwC1YXN1XhN1XhN1YXN1YzN1YXN2bo42YXN1YXN1YXN1YXN2YX
  L1YXL2YXL1YXL2XeI4ZpRBXhN5YXN1YXN1YXN1YXN8YXNXKkR4azTDacRXAbCZiHX4XhN1Ye51XtA1YXN1YXL1bo43YXL1bo
  42YXL3YXL2YXL2YXL1bo33YXL1XwC1YXN1XhN1XhN1YXN1YzN1YXN2bo42YXN1YXN1YXN1YXN2YXL1YXL2YXL1YXL2XeI4Zp
  RBXhN5YXN1YXN1YXN1YXN8YXNXKkR4azTDacRXAbCZiHX4XhN1Ye61XtA1YXN1YXL1bo43YXL1bo42YXL3YXL2YXL2YXL1bo
  33YXL1XwC1YXN1XhN1XhN1YXN1YzN1YXN2bo42YXN1YXN1YXN1YXN2YXL1YXL2YXL1YXL2XeI4ZpRBXhN5YXN1YXN1YXN1YX
  N8YXNXKkR4azTDacRXAbCZiHX4XhN1Ye71XtA1YXN1YXL1bo43YXL1bo42YXL3YXL2YXL2YXL1bo33YXL1XwC1YXN1XhN1Xh
  N1YXN1YzN1YXN2bo42YXN1YXN1YXN1YXN2YXL1YXL2YXL1YXL2XeI4ZpRBXhN5YXN1YXN1YXN1YXN8YXNXKkR4azTDacRXAb
  CZiHX4XhN1Ye81XtA1YXN1YXL1bo43YXL1bo42YXL3YXL2YXL2YXL1bo33YXL1XwC1YXN1XhN1XhN1YXN1YzN1YXN2bo42YX
  N1YXN1YXN1YXN2YXL1YXL2YXL1YXL2XeI4ZpRBXhN5YXN1YXN1YXN1YXN8YXNXKkR4azTDacRXAbCZiHX4XhN1Ye91XtA1YX
  N1YXL1bo43YXL1bo42YXL3YXL2YXL2YXL1bo33YXL1XwC1YXN1XhN1XhN1YXN1YzN1YXN2bo42YXN1YXN1YXN1YXN2YXL1YX
  L2YXL1YXL2XeI4ZpRBXhN5YXN1YXN1YXN1YXN8YXNXKkR4azTDacRXAbCZiHX4XhN1YeA1XtA1YXN1YXL1bo43YXL1bo42YX
  L3YXL2YXL2YXL1bo33YXL1XwC1YXN1XhN1XhN1YXN1YzN1YXN2bo42YXN1YXN1YXN1YXN2YXL1YXL2YXL1YXL2XeI4ZpRBXh
  N5YXN1YXN1YXN1YXN8YXNXKkR4azTDacRXAbCZiHX4XhN1YeB1XtA1YXN1YXL1bo43YXL1bo42YXL3YXL2YXL2YXL1bo33YX
  L1XwC1YXN1XhN1XhN1YXN1YzN1YXN2bo42YXN1YXN1YXN1YXN2YXL1YXL2YXL1YXL2XeI4ZpRBXhN5YXN1YXN1YXN1YXN8YX
  NXKkR4azTDacRXAbCZiHX4XhN1YeD1XtA1YXN1YXL1bo43YXL1bo42YXL3YXL2YXL2YXL1bo33YXL1XwC1YXN1XhN1XhN1YX
  N1YzN1YXN2bo42YXN1YXN1YXN1YXN2YXL1YXL2YXL1YXL2XeI4ZpRBXhN5YXN1YXN1YXN1YXN8YXNXKkR4azTDacRXAbCZo6
  X4XjB1YlT1XkV1XpC1XpB1bp73XpB1bp72XpB3XpB2XpB2XpB1bnM3XpB1XlG1XpC1XjB1XjB1XpC1YzL1XpC2bp72XpC1Xp
  C1XpC1XpC2XpB1XpB2XpB1XpB2XeI4ZpRBXjB5XpC1XpC1XpC1XpC8XpCXKpI4azTDagAXAbCZiHX4XhN1YeH1XtA1YXN1YX
  L1bo43YXL1bo42YXL3YXL2YXL2YXL1bo33YXL1XwC1YXN1XhN1XhN1YXN1YzN1YXN2bo42YXN1YXN1YXN1YXN2YXL1YXL2YX
  L1YXL2XeI4ZpRBXhN5YXN1YXN1YXN1YXN8YXNXKkR4azTDacRXAbCZiHX4XhN1YeI1XtA1YXN1YXL1bo43YXL1bo42YXL3YX
  L2YXL2YXL1bo33YXL1XwC1YXN1XhN1XhN1YXN1YzN1YXN2bo42YXN1YXN1YXN1YXN2YXL1YXL2YXL1YXL2XeI4ZpRBXhN5YX
  N1YXN1YXN1YXN8YXNXKkR4azTDacRXAbCZo6X4XfM1YY51XkV1XpC1XpB1boQ3XpB1boQ2XpB3XpB2XpB2XpB1bmM3XpB1Xl
  G1XpC1XfM1XfM1XpC1Yz51XpC2boQ2XpC1XpC1XpC1XpC2XpB1XpB2XpB1XpB2XeI4ZpRBXfM5XpC1XpC1XpC1XpC8XpCXKl
  K4azTDagAXAbCZiHX4XhN1YeK1XtA1YXN1YXL1bo43YXL1bo42YXL3YXL2YXL2YXL1bo33YXL1XwC1YXN1XhN1XhN1YXN1Yz
  N1YXN2bo42YXN1YXN1YXN1YXN2YXL1YXL2YXL1YXL2XeI4ZpRBXhN5YXN1YXN1YXN1YXN8YXNXKkR4azTDacRXAbCZo6X4Xc
  71YmS1XkV1XpC1XpB1bgT3XpB1bgT2XpB3XpB2XpB2XpB1bmV3XpB1XlG1XpC1Xc71Xc71XpC1YzA1XpC2bgT2XpC1XpC1Xp
  C1XpC2XpB1XpB2XpB1XpB2XeI4ZpRBXc75XpC1XpC1XpC1XpC8XpCXKn64azTDagAXAbCZo6X4XfM1Xs81XkV1XpC1XpB1bo
  Q3XpB1boQ2XpB3XpB2XpB2XpB1bmM3XpB1XlG1XpC1XfM1XfM1XpC1Yz51XpC2boQ2XpC1XpC1XpC1XpC2XpB1XpB2XpB1Xp
  B2XeI4ZpRBXfM5XpC1XpC1XpC1XpC8XpCXKlK4azTDagAXAbCZo6X4XfM1XsA1XkV1XpC1XpB1boQ3XpB1boQ2XpB3XpB2Xp
  B2XpB1bmM3XpB1XlG1XpC1XfM1XfM1XpC1Yz51XpC2boQ2XpC1XpC1XpC1XpC2XpB1XpB2XpB1XpB2XeI4ZpRBXfM5XpC1Xp
  C1XpC1XpC8XpCXKlK4azTDagAXAbCZo6X4XfM1XsB1XkV1XpC1XpB1boQ3XpB1boQ2XpB3XpB2XpB2XpB1bmM3XpB1XlG1Xp
  C1XfM1XfM1XpC1Yz51XpC2boQ2XpC1XpC1XpC1XpC2XpB1XpB2XpB1XpB2XeI4ZpRBXfM5XpC1XpC1XpC1XpC8XpCXKlK4az
  TDagAXAbCZo6X4XfM1XsC1XkV1XpC1XpB1boQ3XpB1boQ2XpB3XpB2XpB2XpB1bmM3XpB1XlG1XpC1XfM1XfM1XpC1Yz51Xp
  C2boQ2XpC1XpC1XpC1XpC2XpB1XpB2XpB1XpB2XeI4ZpRBXfM5XpC1XpC1XpC1XpC8XpCXKlK4azTDagAXAbCZo6X4XfM1Xs
  E1XkV1XpC1XpB1boQ3XpB1boQ2XpB3XpB2XpB2XpB1bmM3XpB1XlG1XpC1XfM1XfM1XpC1Yz51XpC2boQ2XpC1XpC1XpC1Xp
  C2XpB1XpB2XpB1XpB2XeI4ZpRBXfM5XpC1XpC1XpC1XpC8XpCXKlK4azTDagAXAbCZo6X4XfM1XsF1XkV1XpC1XpB1boQ3Xp
  B1boQ2XpB3XpB2XpB2XpB1bmM3XpB1XlG1XpC1XfM1XfM1XpC1Yz51XpC2boQ2XpC1XpC1XpC1XpC2XpB1XpB2XpB1XpB2Xe
  I4ZpRBXfM5XpC1XpC1XpC1XpC8XpCXKlK4azTDagAXAbCZo6X4XfM1Xv71XkV1XpC1XpB1boQ3XpB1boQ2XpB3XpB2XpB2Xp
  B1bmM3XpB1XlG1XpC1XfM1XfM1XpC1Yz51XpC2boQ2XpC1XpC1XpC1XpC2XpB1XpB2XpB1XpB2XeI4ZpRBXfM5XpC1XpC1Xp
  C1XpC8XpCXKlK4azTDagAXAbCZo6X4XfM1XsG1XkV1XpC1XpB1boQ3XpB1boQ2XpB3XpB2XpB2XpB1bmM3XpB1XlG1XpC1Xf
  M1XfM1XpC1Yz51XpC2boQ2XpC1XpC1XpC1XpC2XpB1XpB2XpB1XpB2XeI4ZpRBXfM5XpC1XpC1XpC1XpC8XpCXKlK4azTDag
  AXAbCZo6X4XfM1XsH1XkV1XpC1XpB1boQ3XpB1boQ2XpB3XpB2XpB2XpB1bmM3XpB1XlG1XpC1XfM1XfM1XpC1Yz51XpC2bo
  Q2XpC1XpC1XpC1XpC2XpB1XpB2XpB1XpB2XeI4ZpRBXfM5XpC1XpC1XpC1XpC8XpCXKlK4azTDagAXAbCZo6X4XfM1XsI1Xk
  V1XpC1XpB1boQ3XpB1boQ2XpB3XpB2XpB2XpB1bmM3XpB1XlG1XpC1XfM1XfM1XpC1Yz51XpC2boQ2XpC1XpC1XpC1XpC2Xp
  B1XpB2XpB1XpB2XeI4ZpRBXfM5XpC1XpC1XpC1XpC8XpCXKlK4azTDagAXAbCZo6X4XfM1XsJ1XkV1XpC1XpB1boQ3XpB1bo
  Q2XpB3XpB2XpB2XpB1bmM3XpB1XlG1XpC1XfM1XfM1XpC1Yz51XpC2boQ2XpC1XpC1XpC1XpC2XpB1XpB2XpB1XpB2XeI4Zp
  RBXfM5XpC1XpC1XpC1XpC8XpCXKlK4azTDagAXAbCZo6X4XfM1XsK1XkV1XpC1XpB1boQ3XpB1boQ2XpB3XpB2XpB2XpB1bm
  M3XpB1XlG1XpC1XfM1XfM1XpC1Yz51XpC2boQ2XpC1XpC1XpC1XpC2XpB1XpB2XpB1XpB2XeI4ZpRBXfM5XpC1XpC1XpC1Xp
  C8XpCXKlK4azTDagAXAbCZo6X4XfM1XsL1XkV1XpC1XpB1boQ3XpB1boQ2XpB3XpB2XpB2XpB1bmM3XpB1XlG1XpC1XfM1Xf
  M1XpC1Yz51XpC2boQ2XpC1XpC1XpC1XpC2XpB1XpB2XpB1XpB2XeI4ZpRBXfM5XpC1XpC1XpC1XpC8XpCXKlK4azTDagAXAb
  CZo6X4XfM1XsM1XkV1XpC1XpB1boQ3XpB1boQ2XpB3XpB2XpB2XpB1bmM3XpB1XlG1XpC1XfM1XfM1XpC1Yz51XpC2boQ2Xp
  C1XpC1XpC1XpC2XpB1XpB2XpB1XpB2XeI4ZpRBXfM5XpC1XpC1XpC1XpC8XpCXKlK4azTDagAXAbCZo6X4XfM1XsN1XkV1Xp
  C1XpB1boQ3XpB1boQ2XpB3XpB2XpB2XpB1bmM3XpB1XlG1XpC1XfM1XfM1XpC1Yz51XpC2boQ2XpC1XpC1XpC1XpC2XpB1Xp
  B2XpB1XpB2XeI4ZpRBXfM5XpC1XpC1XpC1XpC8XpCXKlK4azTDagAXAbCZo6X4XfM1XsO1XkV1XpC1XpB1boQ3XpB1boQ2Xp
  B3XpB2XpB2XpB1bmM3XpB1XlG1XpC1XfM1XfM1XpC1Yz51XpC2boQ2XpC1XpC1XpC1XpC2XpB1XpB2XpB1XpB2XeI4ZpRBXf
  M5XpC1XpC1XpC1XpC8XpCXKlK4azTDagAXAbCZo6X4XfM1XsP1XkV1XpC1XpB1boQ3XpB1boQ2XpB3XpB2XpB2XpB1bmM3Xp
  B1XlG1XpC1XfM1XfM1XpC1Yz51XpC2boQ2XpC1XpC1XpC1XpC2XpB1XpB2XpB1XpB2XeI4ZpRBXfM5XpC1XpC1XpC1XpC8Xp
  CXKlK4azTDagAXAbCZo6X4XfM1XsR1XkV1XpC1XpB1boQ3XpB1boQ2XpB3XpB2XpB2XpB1bmM3XpB1XlG1XpC1XfM1XfM1Xp
  C1Yz51XpC2boQ2XpC1XpC1XpC1XpC2XpB1XpB2XpB1XpB2XeI4ZpRBXfM5XpC1XpC1XpC1XpC8XpCXKlK4azTDagAXAbCZo6
  X4XfM1YhB1XkV1XpC1XpB1boQ3XpB1boQ2XpB3XpB2XpB2XpB1bmM3XpB1XlG1XpC1XfM1XfM1XpC1Yz51XpC2boQ2XpC1Xp
  C1XpC1XpC2XpB1XpB2XpB1XpB2XeI4ZpRBXfM5XpC1XpC1XpC1XpC8XpCXKlK4azTDagAXAbCZo6X4XfM1XsV1XkV1XpC1Xp
  B1boQ3XpB1boQ2XpB3XpB2XpB2XpB1bmM3XpB1XlG1XpC1XfM1XfM1XpC1Yz51XpC2boQ2XpC1XpC1XpC1XpC2XpB1XpB2Xp
  B1XpB2XeI4ZpRBXfM5XpC1XpC1XpC1XpC8XpCXKlK4azTDagAXAbCZo6X4XfM1Xt01XkV1XpC1XpB1boQ3XpB1boQ2XpB3Xp
  B2XpB2XpB1bmM3XpB1XlG1XpC1XfM1XfM1XpC1Yz51XpC2boQ2XpC1XpC1XpC1XpC2XpB1XpB2XpB1XpB2XeI4ZpRBXfM5Xp
  C1XpC1XpC1XpC8XpCXKlK4azTDagAXAbCZo6X4XfM1Xt11XkV1XpC1XpB1boQ3XpB1boQ2XpB3XpB2XpB2XpB1bmM3XpB1Xl
  G1XpC1XfM1XfM1XpC1Yz51XpC2boQ2XpC1XpC1XpC1XpC2XpB1XpB2XpB1XpB2XeI4ZpRBXfM5XpC1XpC1XpC1XpC8XpCXKl
  K4azTDagAXAbCZo6X4XfM1Xt71XkV1XpC1XpB1boQ3XpB1boQ2XpB3XpB2XpB2XpB1bmM3XpB1XlG1XpC1XfM1XfM1XpC1Yz
  51XpC2boQ2XpC1XpC1XpC1XpC2XpB1XpB2XpB1XpB2XeI4ZpRBXfM5XpC1XpC1XpC1XpC8XpCXKlK4azTDagAXAbCZo6X4Xj
  G1Yo71XkV1XpC1XpB1bmR3XpB1bmR2XpB3XpB2XpB2XpB1bmV3XpB1XlG1XpC1XjG1XjG1XpC1YzA1XpC2bmR2XpC1XpC1Xp
  C1XpC2XpB1XpB2XpB1XpB2XeI4ZpRBXjG5XpC1XpC1XpC1XpC8XpCXKn64azTDagAXAbCZiHX4XgK1XvC1XtA1YXN1YXL1bo
  T3YXL1boT2YXL3YXL2YXL2YXL1boS3YXL1XwC1YXN1XgK1XgK1YXN1YzO1YXN2boT2YXN1YXN1YXN1YXN2YXL1YXL2YXL1YX
  L2XeI4ZpRBXgK5YXN1YXN1YXN1YXN8YXNXKmF4azTDacRXAbCZiHX4XgK1XvE1XtA1YXN1YXL1boT3YXL1boT2YXL3YXL2YX
  L2YXL1boS3YXL1XwC1YXN1XgK1XgK1YXN1YzO1YXN2boT2YXN1YXN1YXN1YXN2YXL1YXL2YXL1YXL2XeI4ZpRBXgK5YXN1YX
  N1YXN1YXN8YXNXKmF4azTDacRXAbCZiHX4XgK1XvF1XtA1YXN1YXL1boT3YXL1boT2YXL3YXL2YXL2YXL1boS3YXL1XwC1YX
  N1XgK1XgK1YXN1YzO1YXN2boT2YXN1YXN1YXN1YXN2YXL1YXL2YXL1YXL2XeI4ZpRBXgK5YXN1YXN1YXN1YXN8YXNXKmF4az
  TDacRXAbCZiHX4XgK1XvG1XtA1YXN1YXL1boT3YXL1boT2YXL3YXL2YXL2YXL1boS3YXL1XwC1YXN1XgK1XgK1YXN1YzO1YX
  N2boT2YXN1YXN1YXN1YXN2YXL1YXL2YXL1YXL2XeI4ZpRBXgK5YXN1YXN1YXN1YXN8YXNXKmF4azTDacRXAbCZiHX4XgK1Xv
  I1XtA1YXN1YXL1boT3YXL1boT2YXL3YXL2YXL2YXL1boS3YXL1XwC1YXN1XgK1XgK1YXN1YzO1YXN2boT2YXN1YXN1YXN1YX
  N2YXL1YXL2YXL1YXL2XeI4ZpRBXgK5YXN1YXN1YXN1YXN8YXNXKmF4azTDacRXAbCZo6X4XjA1YmO1XkV1XpC1XpB1bp53Xp
  B1bp52XpB3XpB2XpB2XpB1bnF3XpB1XlG1XpC1XjA1XjA1XpC1YzK1XpC2bp52XpC1XpC1XpC1XpC2XpB1XpB2XpB1XpB2Xe
  I4ZpRBXjA5XpC1XpC1XpC1XpC8XpCXKoP4azTDagAXAbCZiHX4XgK1XvJ1XtA1YXN1YXL1boT3YXL1boT2YXL3YXL2YXL2YX
  L1boS3YXL1XwC1YXN1XgK1XgK1YXN1YzO1YXN2boT2YXN1YXN1YXN1YXN2YXL1YXL2YXL1YXL2XeI4ZpRBXgK5YXN1YXN1YX
  N1YXN8YXNXKmF4azTDacRXAbCZiHX4XgK1XvK1XtA1YXN1YXL1boT3YXL1boT2YXL3YXL2YXL2YXL1boS3YXL1XwC1YXN1Xg
  K1XgK1YXN1YzO1YXN2boT2YXN1YXN1YXN1YXN2YXL1YXL2YXL1YXL2XeI4ZpRBXgK5YXN1YXN1YXN1YXN8YXNXKmF4azTDac
  RXAbCZiHX4XgK1XvL1XtA1YXN1YXL1boT3YXL1boT2YXL3YXL2YXL2YXL1boS3YXL1XwC1YXN1XgK1XgK1YXN1YzO1YXN2bo
  T2YXN1YXN1YXN1YXN2YXL1YXL2YXL1YXL2XeI4ZpRBXgK5YXN1YXN1YXN1YXN8YXNXKmF4azTDacRXAbCZiHX4XgK1XvM1Xt
  A1YXN1YXL1boT3YXL1boT2YXL3YXL2YXL2YXL1boS3YXL1XwC1YXN1XgK1XgK1YXN1YzO1YXN2boT2YXN1YXN1YXN1YXN2YX
  L1YXL2YXL1YXL2XeI4ZpRBXgK5YXN1YXN1YXN1YXN8YXNXKmF4azTDacRXAbCZiHX4XgK1XvN1XtA1YXN1YXL1boT3YXL1bo
  T2YXL3YXL2YXL2YXL1boS3YXL1XwC1YXN1XgK1XgK1YXN1YzO1YXN2boT2YXN1YXN1YXN1YXN2YXL1YXL2YXL1YXL2XeI4Zp
  RBXgK5YXN1YXN1YXN1YXN8YXNXKmF4azTDacRXAbCZiHX4XgK1XvO1XtA1YXN1YXL1boT3YXL1boT2YXL3YXL2YXL2YXL1bo
  S3YXL1XwC1YXN1XgK1XgK1YXN1YzO1YXN2boT2YXN1YXN1YXN1YXN2YXL1YXL2YXL1YXL2XeI4ZpRBXgK5YXN1YXN1YXN1YX
  N8YXNXKmF4azTDacRXAbCZiHX4XgK1XvP1XtA1YXN1YXL1boT3YXL1boT2YXL3YXL2YXL2YXL1boS3YXL1XwC1YXN1XgK1Xg
  K1YXN1YzO1YXN2boT2YXN1YXN1YXN1YXN2YXL1YXL2YXL1YXL2XeI4ZpRBXgK5YXN1YXN1YXN1YXN8YXNXKmF4azTDacRXAb
  CZiHX4XgK1XvQ1XtA1YXN1YXL1boT3YXL1boT2YXL3YXL2YXL2YXL1boS3YXL1XwC1YXN1XgK1XgK1YXN1YzO1YXN2boT2YX
  N1YXN1YXN1YXN2YXL1YXL2YXL1YXL2XeI4ZpRBXgK5YXN1YXN1YXN1YXN8YXNXKmF4azTDacRXAbCZiHX4XgK1XvR1XtA1YX
  N1YXL1boT3YXL1boT2YXL3YXL2YXL2YXL1boS3YXL1XwC1YXN1XgK1XgK1YXN1YzO1YXN2boT2YXN1YXN1YXN1YXN2YXL1YX
  L2YXL1YXL2XeI4ZpRBXgK5YXN1YXN1YXN1YXN8YXNXKmF4azTDacRXAbCZiHX4XgK1XvS1XtA1YXN1YXL1boT3YXL1boT2YX
  L3YXL2YXL2YXL1boS3YXL1XwC1YXN1XgK1XgK1YXN1YzO1YXN2boT2YXN1YXN1YXN1YXN2YXL1YXL2YXL1YXL2XeI4ZpRBXg
  K5YXN1YXN1YXN1YXN8YXNXKmF4azTDacRXAbCZiHX4XgK1XvT1XtA1YXN1YXL1boT3YXL1boT2YXL3YXL2YXL2YXL1boS3YX
  L1XwC1YXN1XgK1XgK1YXN1YzO1YXN2boT2YXN1YXN1YXN1YXN2YXL1YXL2YXL1YXL2XeI4ZpRBXgK5YXN1YXN1YXN1YXN8YX
  NXKmF4azTDacRXAbCZiHX4XgK1XvV1XtA1YXN1YXL1boT3YXL1boT2YXL3YXL2YXL2YXL1boS3YXL1XwC1YXN1XgK1XgK1YX
  N1YzO1YXN2boT2YXN1YXN1YXN1YXN2YXL1YXL2YXL1YXL2XeI4ZpRBXgK5YXN1YXN1YXN1YXN8YXNXKmF4azTDacRXAbCZiH
  X4XgK1Xw31XtA1YXN1YXL1boT3YXL1boT2YXL3YXL2YXL2YXL1boS3YXL1XwC1YXN1XgK1XgK1YXN1YzO1YXN2boT2YXN1YX
  N1YXN1YXN2YXL1YXL2YXL1YXL2XeI4ZpRBXgK5YXN1YXN1YXN1YXN8YXNXKmF4azTDacRXAbCZiHX4XgK1Xw41XtA1YXN1YX
  L1boT3YXL1boT2YXL3YXL2YXL2YXL1boS3YXL1XwC1YXN1XgK1XgK1YXN1YzO1YXN2boT2YXN1YXN1YXN1YXN2YXL1YXL2YX
  L1YXL2XeI4ZpRBXgK5YXN1YXN1YXN1YXN8YXNXKmF4azTDacRXAbCZiHX4XgK1Xw51XtA1YXN1YXL1boT3YXL1boT2YXL3YX
  L2YXL2YXL1boS3YXL1XwC1YXN1XgK1XgK1YXN1YzO1YXN2boT2YXN1YXN1YXN1YXN2YXL1YXL2YXL1YXL2XeI4ZpRBXgK5YX
  N1YXN1YXN1YXN8YXNXKmF4azTDacRXAbCZo6X4XjD1YkD1XkV1XpC1XpB1bp83XpB1bp82XpB3XpB2XpB2XpB1bnS3XpB1Xl
  G1XpC1XjD1XjD1XpC1YzM1XpC2bp82XpC1XpC1XpC1XpC2XpB1XpB2XpB1XpB2XeI4ZpRBXjD5XpC1XpC1XpC1XpC8XpCXKq
  A4azTDagAXAbCZo6X4Xc71YlU1XkV1XpC1XpB1bgT3XpB1bgT2XpB3XpB2XpB2XpB1bmV3XpB1XlG1XpC1Xc71Xc71XpC1Yz
  A1XpC2bgT2XpC1XpC1XpC1XpC2XpB1XpB2XpB1XpB2XeI4ZpRBXc75XpC1XpC1XpC1XpC8XpCXKn64azTDagAXAbCZo6X4Xc
  71Ym01XkV1XpC1XpB1bgT3XpB1bgT2XpB3XpB2XpB2XpB1bmV3XpB1XlG1XpC1Xc71Xc71XpC1YzA1XpC2bgT2XpC1XpC1Xp
  C1XpC2XpB1XpB2XpB1XpB2XeI4ZpRBXc75XpC1XpC1XpC1XpC8XpCXKn64azTDagAXAbCZo6X4Xc71Ym11XkV1XpC1XpB1bg
  T3XpB1bgT2XpB3XpB2XpB2XpB1bmV3XpB1XlG1XpC1Xc71Xc71XpC1YzA1XpC2bgT2XpC1XpC1XpC1XpC2XpB1XpB2XpB1Xp
  B2XeI4ZpRBXc75XpC1XpC1XpC1XpC8XpCXKn64azTDagAXAbCZo6X4Xc71Ym21XkV1XpC1XpB1bgT3XpB1bgT2XpB3XpB2Xp
  B2XpB1bmV3XpB1XlG1XpC1Xc71Xc71XpC1YzA1XpC2bgT2XpC1XpC1XpC1XpC2XpB1XpB2XpB1XpB2XeI4ZpRBXc75XpC1Xp
  C1XpC1XpC8XpCXKn64azTDagAXAbCZo6X4Xc71Ym41XkV1XpC1XpB1bgT3XpB1bgT2XpB3XpB2XpB2XpB1bmV3XpB1XlG1Xp
  C1Xc71Xc71XpC1YzA1XpC2bgT2XpC1XpC1XpC1XpC2XpB1XpB2XpB1XpB2XeI4ZpRBXc75XpC1XpC1XpC1XpC8XpCXKn64az
  TDagAXAbCZo6X4Xc71Ym51XkV1XpC1XpB1bgT3XpB1bgT2XpB3XpB2XpB2XpB1bmV3XpB1XlG1XpC1Xc71Xc71XpC1YzA1Xp
  C2bgT2XpC1XpC1XpC1XpC2XpB1XpB2XpB1XpB2XeI4ZpRBXc75XpC1XpC1XpC1XpC8XpCXKn64azTDagAXAbCZo6X4Xc71Ym
  61XkV1XpC1XpB1bgT3XpB1bgT2XpB3XpB2XpB2XpB1bmV3XpB1XlG1XpC1Xc71Xc71XpC1YzA1XpC2bgT2XpC1XpC1XpC1Xp
  C2XpB1XpB2XpB1XpB2XeI4ZpRBXc75XpC1XpC1XpC1XpC8XpCXKn64azTDagAXAbCZo6X4Xc71Ym71XkV1XpC1XpB1bgT3Xp
  B1bgT2XpB3XpB2XpB2XpB1bmV3XpB1XlG1XpC1Xc71Xc71XpC1YzA1XpC2bgT2XpC1XpC1XpC1XpC2XpB1XpB2XpB1XpB2Xe
  I4ZpRBXc75XpC1XpC1XpC1XpC8XpCXKn64azTDagAXAbCZo6X4Xc71Ym81XkV1XpC1XpB1bgT3XpB1bgT2XpB3XpB2XpB2Xp
  B1bmV3XpB1XlG1XpC1Xc71Xc71XpC1YzA1XpC2bgT2XpC1XpC1XpC1XpC2XpB1XpB2XpB1XpB2XeI4ZpRBXc75XpC1XpC1Xp
  C1XpC8XpCXKn64azTDagAXAbCZo6X4Xc71Ym91XkV1XpC1XpB1bgT3XpB1bgT2XpB3XpB2XpB2XpB1bmV3XpB1XlG1XpC1Xc
  71Xc71XpC1YzA1XpC2bgT2XpC1XpC1XpC1XpC2XpB1XpB2XpB1XpB2XeI4ZpRBXc75XpC1XpC1XpC1XpC8XpCXKn64azTDag
  AXAbCZo6X4Xc71YmA1XkV1XpC1XpB1bgT3XpB1bgT2XpB3XpB2XpB2XpB1bmV3XpB1XlG1XpC1Xc71Xc71XpC1YzA1XpC2bg
  T2XpC1XpC1XpC1XpC2XpB1XpB2XpB1XpB2XeI4ZpRBXc75XpC1XpC1XpC1XpC8XpCXKn64azTDagAXAbCZo6X4Xc71YmB1Xk
  V1XpC1XpB1bgT3XpB1bgT2XpB3XpB2XpB2XpB1bmV3XpB1XlG1XpC1Xc71Xc71XpC1YzA1XpC2bgT2XpC1XpC1XpC1XpC2Xp
  B1XpB2XpB1XpB2XeI4ZpRBXc75XpC1XpC1XpC1XpC8XpCXKn64azTDagAXAbCZo6X4Xc71YmC1XkV1XpC1XpB1bgT3XpB1bg
  T2XpB3XpB2XpB2XpB1bmV3XpB1XlG1XpC1Xc71Xc71XpC1YzA1XpC2bgT2XpC1XpC1XpC1XpC2XpB1XpB2XpB1XpB2XeI4Zp
  RBXc75XpC1XpC1XpC1XpC8XpCXKn64azTDagAXAbCZo6X4Xc71YmD1XkV1XpC1XpB1bgT3XpB1bgT2XpB3XpB2XpB2XpB1bm
  V3XpB1XlG1XpC1Xc71Xc71XpC1YzA1XpC2bgT2XpC1XpC1XpC1XpC2XpB1XpB2XpB1XpB2XeI4ZpRBXc75XpC1XpC1XpC1Xp
  C8XpCXKn64azTDagAXAbCZo6X4Xc71YmE1XkV1XpC1XpB1bgT3XpB1bgT2XpB3XpB2XpB2XpB1bmV3XpB1XlG1XpC1Xc71Xc
  71XpC1YzA1XpC2bgT2XpC1XpC1XpC1XpC2XpB1XpB2XpB1XpB2XeI4ZpRBXc75XpC1XpC1XpC1XpC8XpCXKn64azTDagAXAb
  CZo6X4Xc71YmF1XkV1XpC1XpB1bgT3XpB1bgT2XpB3XpB2XpB2XpB1bmV3XpB1XlG1XpC1Xc71Xc71XpC1YzA1XpC2bgT2Xp
  C1XpC1XpC1XpC2XpB1XpB2XpB1XpB2XeI4ZpRBXc75XpC1XpC1XpC1XpC8XpCXKn64azTDagAXAbCZo6X4Xc71YmH1XkV1Xp
  C1XpB1bgT3XpB1bgT2XpB3XpB2XpB2XpB1bmV3XpB1XlG1XpC1Xc71Xc71XpC1YzA1XpC2bgT2XpC1XpC1XpC1XpC2XpB1Xp
  B2XpB1XpB2XeI4ZpRBXc75XpC1XpC1XpC1XpC8XpCXKn64azTDagAXAbCZo6X4Xc71YmL1XkV1XpC1XpB1bgT3XpB1bgT2Xp
  B3XpB2XpB2XpB1bmV3XpB1XlG1XpC1Xc71Xc71XpC1YzA1XpC2bgT2XpC1XpC1XpC1XpC2XpB1XpB2XpB1XpB2XeI4ZpRBXc
  75XpC1XpC1XpC1XpC8XpCXKn64azTDagAXAbCZo6X4Xc71YmM1XkV1XpC1XpB1bgT3XpB1bgT2XpB3XpB2XpB2XpB1bmV3Xp
  B1XlG1XpC1Xc71Xc71XpC1YzA1XpC2bgT2XpC1XpC1XpC1XpC2XpB1XpB2XpB1XpB2XeI4ZpRBXc75XpC1XpC1XpC1XpC8Xp
  CXKn64azTDagAXAbCZo6X4Xc71YmN1XkV1XpC1XpB1bgT3XpB1bgT2XpB3XpB2XpB2XpB1bmV3XpB1XlG1XpC1Xc71Xc71Xp
  C1YzA1XpC2bgT2XpC1XpC1XpC1XpC2XpB1XpB2XpB1XpB2XeI4ZpRBXc75XpC1XpC1XpC1XpC8XpCXKn64azTDagAXAbCZo6
  X4Xc71YmQ1XkV1XpC1XpB1bgT3XpB1bgT2XpB3XpB2XpB2XpB1bmV3XpB1XlG1XpC1Xc71Xc71XpC1YzA1XpC2bgT2XpC1Xp
  C1XpC1XpC2XpB1XpB2XpB1XpB2XeI4ZpRBXc75XpC1XpC1XpC1XpC8XpCXKn64azTDagAXAbCZo6X4XjH1Yo71XkV1XpC1Xp
  B1bn33XpB1bn32XpB3XpB2XpB2XpB1bmV3XpB1XlG1XpC1XjH1XjH1XpC1YzA1XpC2bn32XpC1XpC1XpC1XpC2XpB1XpB2Xp
  B1XpB2XeI4ZpRBXjH5XpC1XpC1XpC1XpC8XpCXKn64azTDagAXAbCZo6X4XjA1YmT1XkV1XpC1XpB1bp53XpB1bp52XpB3Xp
  B2XpB2XpB1bnF3XpB1XlG1XpC1XjA1XjA1XpC1YzK1XpC2bp52XpC1XpC1XpC1XpC2XpB1XpB2XpB1XpB2XeI4ZpRBXjA5Xp
  C1XpC1XpC1XpC8XpCXKoP4azTDagAXAbCZo6X4XhF1YWM1XkV1XpC1XpB1bp33XpB1bp32XpB3XpB2XpB2XpB1bn73XpB1Xl
  G1XpC1XhF1XhF1XpC1YzF1XpC2bp32XpC1XpC1XpC1XpC2XpB1XpB2XpB1XpB2XeI4ZpRBXhF5XpC1XpC1XpC1XpC8XpCXKo
  04azTDagAXAbCZo6X4XhF1YWO1XkV1XpC1XpB1bp33XpB1bp32XpB3XpB2XpB2XpB1bn73XpB1XlG1XpC1XhF1XhF1XpC1Yz
  F1XpC2bp32XpC1XpC1XpC1XpC2XpB1XpB2XpB1XpB2XeI4ZpRBXhF5XpC1XpC1XpC1XpC8XpCXKo04azTDagAXAbCZo6X4Xh
  F1YWP1XkV1XpC1XpB1bp33XpB1bp32XpB3XpB2XpB2XpB1bn73XpB1XlG1XpC1XhF1XhF1XpC1YzF1XpC2bp32XpC1XpC1Xp
  C1XpC2XpB1XpB2XpB1XpB2XeI4ZpRBXhF5XpC1XpC1XpC1XpC8XpCXKo04azTDagAXAbCZo6X4XhF1YWQ1XkV1XpC1XpB1bp
  33XpB1bp32XpB3XpB2XpB2XpB1bn73XpB1XlG1XpC1XhF1XhF1XpC1YzF1XpC2bp32XpC1XpC1XpC1XpC2XpB1XpB2XpB1Xp
  B2XeI4ZpRBXhF5XpC1XpC1XpC1XpC8XpCXKo04azTDagAXAbCZo6X4XhF1YWS1XkV1XpC1XpB1bp33XpB1bp32XpB3XpB2Xp
  B2XpB1bn73XpB1XlG1XpC1XhF1XhF1XpC1YzF1XpC2bp32XpC1XpC1XpC1XpC2XpB1XpB2XpB1XpB2XeI4ZpRBXhF5XpC1Xp
  C1XpC1XpC8XpCXKo04azTDagAXAbCZo6X4XhF1YWT1XkV1XpC1XpB1bp33XpB1bp32XpB3XpB2XpB2XpB1bn73XpB1XlG1Xp
  C1XhF1XhF1XpC1YzF1XpC2bp32XpC1XpC1XpC1XpC2XpB1XpB2XpB1XpB2XeI4ZpRBXhF5XpC1XpC1XpC1XpC8XpCXKo04az
  TDagAXAbCZo6X4XhF1YWU1XkV1XpC1XpB1bp33XpB1bp32XpB3XpB2XpB2XpB1bn73XpB1XlG1XpC1XhF1XhF1XpC1YzF1Xp
  C2bp32XpC1XpC1XpC1XpC2XpB1XpB2XpB1XpB2XeI4ZpRBXhF5XpC1XpC1XpC1XpC8XpCXKo04azTDagAXAbCZo6X4XhF1YW
  V1XkV1XpC1XpB1bp33XpB1bp32XpB3XpB2XpB2XpB1bn73XpB1XlG1XpC1XhF1XhF1XpC1YzF1XpC2bp32XpC1XpC1XpC1Xp
  C2XpB1XpB2XpB1XpB2XeI4ZpRBXhF5XpC1XpC1XpC1XpC8XpCXKo04azTDagAXAbCZo6X4XhF1YX01XkV1XpC1XpB1bp33Xp
  B1bp32XpB3XpB2XpB2XpB1bn73XpB1XlG1XpC1XhF1XhF1XpC1YzF1XpC2bp32XpC1XpC1XpC1XpC2XpB1XpB2XpB1XpB2Xe
  I4ZpRBXhF5XpC1XpC1XpC1XpC8XpCXKo04azTDagAXAbCZo6X4XhF1YX11XkV1XpC1XpB1bp33XpB1bp32XpB3XpB2XpB2Xp
  B1bn73XpB1XlG1XpC1XhF1XhF1XpC1YzF1XpC2bp32XpC1XpC1XpC1XpC2XpB1XpB2XpB1XpB2XeI4ZpRBXhF5XpC1XpC1Xp
  C1XpC8XpCXKo04azTDagAXAbCZo6X4XhF1YX21XkV1XpC1XpB1bp33XpB1bp32XpB3XpB2XpB2XpB1bn73XpB1XlG1XpC1Xh
  F1XhF1XpC1YzF1XpC2bp32XpC1XpC1XpC1XpC2XpB1XpB2XpB1XpB2XeI4ZpRBXhF5XpC1XpC1XpC1XpC8XpCXKo04azTDag
  AXAbCZo6X4XhF1YX31XkV1XpC1XpB1bp33XpB1bp32XpB3XpB2XpB2XpB1bn73XpB1XlG1XpC1XhF1XhF1XpC1YzF1XpC2bp
  32XpC1XpC1XpC1XpC2XpB1XpB2XpB1XpB2XeI4ZpRBXhF5XpC1XpC1XpC1XpC8XpCXKo04azTDagAXAbCZo6X4XhF1YX41Xk
  V1XpC1XpB1bp33XpB1bp32XpB3XpB2XpB2XpB1bn73XpB1XlG1XpC1XhF1XhF1XpC1YzF1XpC2bp32XpC1XpC1XpC1XpC2Xp
  B1XpB2XpB1XpB2XeI4ZpRBXhF5XpC1XpC1XpC1XpC8XpCXKo04azTDagAXAbCZo6X4XhF1YX51XkV1XpC1XpB1bp33XpB1bp
  32XpB3XpB2XpB2XpB1bn73XpB1XlG1XpC1XhF1XhF1XpC1YzF1XpC2bp32XpC1XpC1XpC1XpC2XpB1XpB2XpB1XpB2XeI4Zp
  RBXhF5XpC1XpC1XpC1XpC8XpCXKo04azTDagAXAbCZo6X4XhF1YX61XkV1XpC1XpB1bp33XpB1bp32XpB3XpB2XpB2XpB1bn
  73XpB1XlG1XpC1XhF1XhF1XpC1YzF1XpC2bp32XpC1XpC1XpC1XpC2XpB1XpB2XpB1XpB2XeI4ZpRBXhF5XpC1XpC1XpC1Xp
  C8XpCXKo04azTDagAXAbCZo6X4XhF1YX71XkV1XpC1XpB1bp33XpB1bp32XpB3XpB2XpB2XpB1bn73XpB1XlG1XpC1XhF1Xh
  F1XpC1YzF1XpC2bp32XpC1XpC1XpC1XpC2XpB1XpB2XpB1XpB2XeI4ZpRBXhF5XpC1XpC1XpC1XpC8XpCXKo04azTDagAXAb
  CZo6X4XhF1YX91XkV1XpC1XpB1bp33XpB1bp32XpB3XpB2XpB2XpB1bn73XpB1XlG1XpC1XhF1XhF1XpC1YzF1XpC2bp32Xp
  C1XpC1XpC1XpC2XpB1XpB2XpB1XpB2XeI4ZpRBXhF5XpC1XpC1XpC1XpC8XpCXKo04azTDagAXAbCZo6X4XhF1YXD1XkV1Xp
  C1XpB1bp33XpB1bp32XpB3XpB2XpB2XpB1bn73XpB1XlG1XpC1XhF1XhF1XpC1YzF1XpC2bp32XpC1XpC1XpC1XpC2XpB1Xp
  B2XpB1XpB2XeI4ZpRBXhF5XpC1XpC1XpC1XpC8XpCXKo04azTDagAXAbCZo6X4XhF1YXE1XkV1XpC1XpB1bp33XpB1bp32Xp
  B3XpB2XpB2XpB1bn73XpB1XlG1XpC1XhF1XhF1XpC1YzF1XpC2bp32XpC1XpC1XpC1XpC2XpB1XpB2XpB1XpB2XeI4ZpRBXh
  F5XpC1XpC1XpC1XpC8XpCXKo04azTDagAXAbCZo6X4XhF1YXF1XkV1XpC1XpB1bp33XpB1bp32XpB3XpB2XpB2XpB1bn73Xp
  B1XlG1XpC1XhF1XhF1XpC1YzF1XpC2bp32XpC1XpC1XpC1XpC2XpB1XpB2XpB1XpB2XeI4ZpRBXhF5XpC1XpC1XpC1XpC8Xp
  CXKo04azTDagAXAbCZo6X4XhF1YXH1XkV1XpC1XpB1bp33XpB1bp32XpB3XpB2XpB2XpB1bn73XpB1XlG1XpC1XhF1XhF1Xp
  C1YzF1XpC2bp32XpC1XpC1XpC1XpC2XpB1XpB2XpB1XpB2XeI4ZpRBXhF5XpC1XpC1XpC1XpC8XpCXKo04azTDagAXAbCZo6
  X4XjI1Yo71XkV1XpC1XpB1bnB3XpB1bnB2XpB3XpB2XpB2XpB1bmV3XpB1XlG1XpC1XjI1XjI1XpC1YzA1XpC2bnB2XpC1Xp
  C1XpC1XpC2XpB1XpB2XpB1XpB2XeI4ZpRBXjI5XpC1XpC1XpC1XpC8XpCXKn64azTDagAXAbCZo6X4XjA1YmU1XkV1XpC1Xp
  B1bp53XpB1bp52XpB3XpB2XpB2XpB1bnF3XpB1XlG1XpC1XjA1XjA1XpC1YzK1XpC2bp52XpC1XpC1XpC1XpC2XpB1XpB2Xp
  B1XpB2XeI4ZpRBXjA5XpC1XpC1XpC1XpC8XpCXKoP4azTDagAXAbCZo6X4XjA1YhG1XkV1XpC1XpB1bp53XpB1bp52XpB3Xp
  B2XpB2XpB1bnF3XpB1XlG1XpC1XjA1XjA1XpC1YzK1XpC2bp52XpC1XpC1XpC1XpC2XpB1XpB2XpB1XpB2XeI4ZpRBXjA5Xp
  C1XpC1XpC1XpC8XpCXKoP4azTDagAXAbCZo6X4XjA1YhI1XkV1XpC1XpB1bp53XpB1bp52XpB3XpB2XpB2XpB1bnF3XpB1Xl
  G1XpC1XjA1XjA1XpC1YzK1XpC2bp52XpC1XpC1XpC1XpC2XpB1XpB2XpB1XpB2XeI4ZpRBXjA5XpC1XpC1XpC1XpC8XpCXKo
  P4azTDagAXAbCZo6X4XjA1YhJ1XkV1XpC1XpB1bp53XpB1bp52XpB3XpB2XpB2XpB1bnF3XpB1XlG1XpC1XjA1XjA1XpC1Yz
  K1XpC2bp52XpC1XpC1XpC1XpC2XpB1XpB2XpB1XpB2XeI4ZpRBXjA5XpC1XpC1XpC1XpC8XpCXKoP4azTDagAXAbCZo6X4Xj
  A1YhK1XkV1XpC1XpB1bp53XpB1bp52XpB3XpB2XpB2XpB1bnF3XpB1XlG1XpC1XjA1XjA1XpC1YzK1XpC2bp52XpC1XpC1Xp
  C1XpC2XpB1XpB2XpB1XpB2XeI4ZpRBXjA5XpC1XpC1XpC1XpC8XpCXKoP4azTDagAXAbCZo6X4XjA1YhM1XkV1XpC1XpB1bp
  53XpB1bp52XpB3XpB2XpB2XpB1bnF3XpB1XlG1XpC1XjA1XjA1XpC1YzK1XpC2bp52XpC1XpC1XpC1XpC2XpB1XpB2XpB1Xp
  B2XeI4ZpRBXjA5XpC1XpC1XpC1XpC8XpCXKoP4azTDagAXAbCZo6X4XjA1YhN1XkV1XpC1XpB1bp53XpB1bp52XpB3XpB2Xp
  B2XpB1bnF3XpB1XlG1XpC1XjA1XjA1XpC1YzK1XpC2bp52XpC1XpC1XpC1XpC2XpB1XpB2XpB1XpB2XeI4ZpRBXjA5XpC1Xp
  C1XpC1XpC8XpCXKoP4azTDagAXAbCZo6X4XjA1YhO1XkV1XpC1XpB1bp53XpB1bp52XpB3XpB2XpB2XpB1bnF3XpB1XlG1Xp
  C1XjA1XjA1XpC1YzK1XpC2bp52XpC1XpC1XpC1XpC2XpB1XpB2XpB1XpB2XeI4ZpRBXjA5XpC1XpC1XpC1XpC8XpCXKoP4az
  TDagAXAbCZo6X4XjA1YhP1XkV1XpC1XpB1bp53XpB1bp52XpB3XpB2XpB2XpB1bnF3XpB1XlG1XpC1XjA1XjA1XpC1YzK1Xp
  C2bp52XpC1XpC1XpC1XpC2XpB1XpB2XpB1XpB2XeI4ZpRBXjA5XpC1XpC1XpC1XpC8XpCXKoP4azTDagAXAbCZo6X4XjA1Yh
  Q1XkV1XpC1XpB1bp53XpB1bp52XpB3XpB2XpB2XpB1bnF3XpB1XlG1XpC1XjA1XjA1XpC1YzK1XpC2bp52XpC1XpC1XpC1Xp
  C2XpB1XpB2XpB1XpB2XeI4ZpRBXjA5XpC1XpC1XpC1XpC8XpCXKoP4azTDagAXAbCZo6X4XjA1YhR1XkV1XpC1XpB1bp53Xp
  B1bp52XpB3XpB2XpB2XpB1bnF3XpB1XlG1XpC1XjA1XjA1XpC1YzK1XpC2bp52XpC1XpC1XpC1XpC2XpB1XpB2XpB1XpB2Xe
  I4ZpRBXjA5XpC1XpC1XpC1XpC8XpCXKoP4azTDagAXAbCZo6X4XjA1YhS1XkV1XpC1XpB1bp53XpB1bp52XpB3XpB2XpB2Xp
  B1bnF3XpB1XlG1XpC1XjA1XjA1XpC1YzK1XpC2bp52XpC1XpC1XpC1XpC2XpB1XpB2XpB1XpB2XeI4ZpRBXjA5XpC1XpC1Xp
  C1XpC8XpCXKoP4azTDagAXAbCZo6X4XjA1YhT1XkV1XpC1XpB1bp53XpB1bp52XpB3XpB2XpB2XpB1bnF3XpB1XlG1XpC1Xj
  A1XjA1XpC1YzK1XpC2bp52XpC1XpC1XpC1XpC2XpB1XpB2XpB1XpB2XeI4ZpRBXjA5XpC1XpC1XpC1XpC8XpCXKoP4azTDag
  AXAbCZo6X4XjA1YhU1XkV1XpC1XpB1bp53XpB1bp52XpB3XpB2XpB2XpB1bnF3XpB1XlG1XpC1XjA1XjA1XpC1YzK1XpC2bp
  52XpC1XpC1XpC1XpC2XpB1XpB2XpB1XpB2XeI4ZpRBXjA5XpC1XpC1XpC1XpC8XpCXKoP4azTDagAXAbCZo6X4XjA1YhV1Xk
  V1XpC1XpB1bp53XpB1bp52XpB3XpB2XpB2XpB1bnF3XpB1XlG1XpC1XjA1XjA1XpC1YzK1XpC2bp52XpC1XpC1XpC1XpC2Xp
  B1XpB2XpB1XpB2XeI4ZpRBXjA5XpC1XpC1XpC1XpC8XpCXKoP4azTDagAXAbCZo6X4XjA1Yi01XkV1XpC1XpB1bp53XpB1bp
  52XpB3XpB2XpB2XpB1bnF3XpB1XlG1XpC1XjA1XjA1XpC1YzK1XpC2bp52XpC1XpC1XpC1XpC2XpB1XpB2XpB1XpB2XeI4Zp
  RBXjA5XpC1XpC1XpC1XpC8XpCXKoP4azTDagAXAbCZo6X4XjA1Yi11XkV1XpC1XpB1bp53XpB1bp52XpB3XpB2XpB2XpB1bn
  F3XpB1XlG1XpC1XjA1XjA1XpC1YzK1XpC2bp52XpC1XpC1XpC1XpC2XpB1XpB2XpB1XpB2XeI4ZpRBXjA5XpC1XpC1XpC1Xp
  C8XpCXKoP4azTDagAXAbCZo6X4XjA1Yi31XkV1XpC1XpB1bp53XpB1bp52XpB3XpB2XpB2XpB1bnF3XpB1XlG1XpC1XjA1Xj
  A1XpC1YzK1XpC2bp52XpC1XpC1XpC1XpC2XpB1XpB2XpB1XpB2XeI4ZpRBXjA5XpC1XpC1XpC1XpC8XpCXKoP4azTDagAXAb
  CZo6X4XjA1Yi71XkV1XpC1XpB1bp53XpB1bp52XpB3XpB2XpB2XpB1bnF3XpB1XlG1XpC1XjA1XjA1XpC1YzK1XpC2bp52Xp
  C1XpC1XpC1XpC2XpB1XpB2XpB1XpB2XeI4ZpRBXjA5XpC1XpC1XpC1XpC8XpCXKoP4azTDagAXAbCZo6X4XjA1Yi81XkV1Xp
  C1XpB1bp53XpB1bp52XpB3XpB2XpB2XpB1bnF3XpB1XlG1XpC1XjA1XjA1XpC1YzK1XpC2bp52XpC1XpC1XpC1XpC2XpB1Xp
  B2XpB1XpB2XeI4ZpRBXjA5XpC1XpC1XpC1XpC8XpCXKoP4azTDagAXAbCZo6X4XjA1Yi91XkV1XpC1XpB1bp53XpB1bp52Xp
  B3XpB2XpB2XpB1bnF3XpB1XlG1XpC1XjA1XjA1XpC1YzK1XpC2bp52XpC1XpC1XpC1XpC2XpB1XpB2XpB1XpB2XeI4ZpRBXj
  A5XpC1XpC1XpC1XpC8XpCXKoP4azTDagAXAbCZo6X4XjA1Yj71XkV1XpC1XpB1bp53XpB1bp52XpB3XpB2XpB2XpB1bnF3Xp
  B1XlG1XpC1XjA1XjA1XpC1YzK1XpC2bp52XpC1XpC1XpC1XpC2XpB1XpB2XpB1XpB2XeI4ZpRBXjA5XpC1XpC1XpC1XpC8Xp
  CXKoP4azTDagAXAbCZo6X4XjJ1Yo71XkV1XpC1XpB1bnJ3XpB1bnJ2XpB3XpB2XpB2XpB1bmV3XpB1XlG1XpC1XjJ1XjJ1Xp
  C1YzA1XpC2bnJ2XpC1XpC1XpC1XpC2XpB1XpB2XpB1XpB2XeI4ZpRBXjJ5XpC1XpC1XpC1XpC8XpCXKn64azTDagAXAbCZo6
  X4XjA1YmV1XkV1XpC1XpB1bp53XpB1bp52XpB3XpB2XpB2XpB1bnF3XpB1XlG1XpC1XjA1XjA1XpC1YzK1XpC2bp52XpC1Xp
  C1XpC1XpC2XpB1XpB2XpB1XpB2XeI4ZpRBXjA5XpC1XpC1XpC1XpC8XpCXKoP4azTDagAXAbCZo6X4XjB1YiA1XkV1XpC1Xp
  B1bp73XpB1bp72XpB3XpB2XpB2XpB1bnM3XpB1XlG1XpC1XjB1XjB1XpC1YzL1XpC2bp72XpC1XpC1XpC1XpC2XpB1XpB2Xp
  B1XpB2XeI4ZpRBXjB5XpC1XpC1XpC1XpC8XpCXKpI4azTDagAXAbCZo6X4XjB1YiC1XkV1XpC1XpB1bp73XpB1bp72XpB3Xp
  B2XpB2XpB1bnM3XpB1XlG1XpC1XjB1XjB1XpC1YzL1XpC2bp72XpC1XpC1XpC1XpC2XpB1XpB2XpB1XpB2XeI4ZpRBXjB5Xp
  C1XpC1XpC1XpC8XpCXKpI4azTDagAXAbCZo6X4XjB1YiD1XkV1XpC1XpB1bp73XpB1bp72XpB3XpB2XpB2XpB1bnM3XpB1Xl
  G1XpC1XjB1XjB1XpC1YzL1XpC2bp72XpC1XpC1XpC1XpC2XpB1XpB2XpB1XpB2XeI4ZpRBXjB5XpC1XpC1XpC1XpC8XpCXKp
  I4azTDagAXAbCZo6X4XjB1YiE1XkV1XpC1XpB1bp73XpB1bp72XpB3XpB2XpB2XpB1bnM3XpB1XlG1XpC1XjB1XjB1XpC1Yz
  L1XpC2bp72XpC1XpC1XpC1XpC2XpB1XpB2XpB1XpB2XeI4ZpRBXjB5XpC1XpC1XpC1XpC8XpCXKpI4azTDagAXAbCZo6X4Xj
  B1YiG1XkV1XpC1XpB1bp73XpB1bp72XpB3XpB2XpB2XpB1bnM3XpB1XlG1XpC1XjB1XjB1XpC1YzL1XpC2bp72XpC1XpC1Xp
  C1XpC2XpB1XpB2XpB1XpB2XeI4ZpRBXjB5XpC1XpC1XpC1XpC8XpCXKpI4azTDagAXAbCZo6X4XjB1YiH1XkV1XpC1XpB1bp
  73XpB1bp72XpB3XpB2XpB2XpB1bnM3XpB1XlG1XpC1XjB1XjB1XpC1YzL1XpC2bp72XpC1XpC1XpC1XpC2XpB1XpB2XpB1Xp
  B2XeI4ZpRBXjB5XpC1XpC1XpC1XpC8XpCXKpI4azTDagAXAbCZo6X4XjB1YiI1XkV1XpC1XpB1bp73XpB1bp72XpB3XpB2Xp
  B2XpB1bnM3XpB1XlG1XpC1XjB1XjB1XpC1YzL1XpC2bp72XpC1XpC1XpC1XpC2XpB1XpB2XpB1XpB2XeI4ZpRBXjB5XpC1Xp
  C1XpC1XpC8XpCXKpI4azTDagAXAbCZo6X4XjB1YiJ1XkV1XpC1XpB1bp73XpB1bp72XpB3XpB2XpB2XpB1bnM3XpB1XlG1Xp
  C1XjB1XjB1XpC1YzL1XpC2bp72XpC1XpC1XpC1XpC2XpB1XpB2XpB1XpB2XeI4ZpRBXjB5XpC1XpC1XpC1XpC8XpCXKpI4az
  TDagAXAbCZo6X4XjB1YiK1XkV1XpC1XpB1bp73XpB1bp72XpB3XpB2XpB2XpB1bnM3XpB1XlG1XpC1XjB1XjB1XpC1YzL1Xp
  C2bp72XpC1XpC1XpC1XpC2XpB1XpB2XpB1XpB2XeI4ZpRBXjB5XpC1XpC1XpC1XpC8XpCXKpI4azTDagAXAbCZo6X4XjB1Yi
  L1XkV1XpC1XpB1bp73XpB1bp72XpB3XpB2XpB2XpB1bnM3XpB1XlG1XpC1XjB1XjB1XpC1YzL1XpC2bp72XpC1XpC1XpC1Xp
  C2XpB1XpB2XpB1XpB2XeI4ZpRBXjB5XpC1XpC1XpC1XpC8XpCXKpI4azTDagAXAbCZo6X4XjB1YiM1XkV1XpC1XpB1bp73Xp
  B1bp72XpB3XpB2XpB2XpB1bnM3XpB1XlG1XpC1XjB1XjB1XpC1YzL1XpC2bp72XpC1XpC1XpC1XpC2XpB1XpB2XpB1XpB2Xe
  I4ZpRBXjB5XpC1XpC1XpC1XpC8XpCXKpI4azTDagAXAbCZo6X4XjB1YiN1XkV1XpC1XpB1bp73XpB1bp72XpB3XpB2XpB2Xp
  B1bnM3XpB1XlG1XpC1XjB1XjB1XpC1YzL1XpC2bp72XpC1XpC1XpC1XpC2XpB1XpB2XpB1XpB2XeI4ZpRBXjB5XpC1XpC1Xp
  C1XpC8XpCXKpI4azTDagAXAbCZo6X4XjB1YiO1XkV1XpC1XpB1bp73XpB1bp72XpB3XpB2XpB2XpB1bnM3XpB1XlG1XpC1Xj
  B1XjB1XpC1YzL1XpC2bp72XpC1XpC1XpC1XpC2XpB1XpB2XpB1XpB2XeI4ZpRBXjB5XpC1XpC1XpC1XpC8XpCXKpI4azTDag
  AXAbCZo6X4XjB1YiP1XkV1XpC1XpB1bp73XpB1bp72XpB3XpB2XpB2XpB1bnM3XpB1XlG1XpC1XjB1XjB1XpC1YzL1XpC2bp
  72XpC1XpC1XpC1XpC2XpB1XpB2XpB1XpB2XeI4ZpRBXjB5XpC1XpC1XpC1XpC8XpCXKpI4azTDagAXAbCZo6X4XjB1YiQ1Xk
  V1XpC1XpB1bp73XpB1bp72XpB3XpB2XpB2XpB1bnM3XpB1XlG1XpC1XjB1XjB1XpC1YzL1XpC2bp72XpC1XpC1XpC1XpC2Xp
  B1XpB2XpB1XpB2XeI4ZpRBXjB5XpC1XpC1XpC1XpC8XpCXKpI4azTDagAXAbCZo6X4XjB1YiR1XkV1XpC1XpB1bp73XpB1bp
  72XpB3XpB2XpB2XpB1bnM3XpB1XlG1XpC1XjB1XjB1XpC1YzL1XpC2bp72XpC1XpC1XpC1XpC2XpB1XpB2XpB1XpB2XeI4Zp
  RBXjB5XpC1XpC1XpC1XpC8XpCXKpI4azTDagAXAbCZo6X4XjB1YiT1XkV1XpC1XpB1bp73XpB1bp72XpB3XpB2XpB2XpB1bn
  M3XpB1XlG1XpC1XjB1XjB1XpC1YzL1XpC2bp72XpC1XpC1XpC1XpC2XpB1XpB2XpB1XpB2XeI4ZpRBXjB5XpC1XpC1XpC1Xp
  C8XpCXKpI4azTDagAXAbCZo6X4XjB1Yj11XkV1XpC1XpB1bp73XpB1bp72XpB3XpB2XpB2XpB1bnM3XpB1XlG1XpC1XjB1Xj
  B1XpC1YzL1XpC2bp72XpC1XpC1XpC1XpC2XpB1XpB2XpB1XpB2XeI4ZpRBXjB5XpC1XpC1XpC1XpC8XpCXKpI4azTDagAXAb
  CZo6X4XjB1Yj21XkV1XpC1XpB1bp73XpB1bp72XpB3XpB2XpB2XpB1bnM3XpB1XlG1XpC1XjB1XjB1XpC1YzL1XpC2bp72Xp
  C1XpC1XpC1XpC2XpB1XpB2XpB1XpB2XeI4ZpRBXjB5XpC1XpC1XpC1XpC8XpCXKpI4azTDagAXAbCZo6X4XjB1Yj31XkV1Xp
  C1XpB1bp73XpB1bp72XpB3XpB2XpB2XpB1bnM3XpB1XlG1XpC1XjB1XjB1XpC1YzL1XpC2bp72XpC1XpC1XpC1XpC2XpB1Xp
  B2XpB1XpB2XeI4ZpRBXjB5XpC1XpC1XpC1XpC8XpCXKpI4azTDagAXAbCZo6X4XjB1YjB1XkV1XpC1XpB1bp73XpB1bp72Xp
  B3XpB2XpB2XpB1bnM3XpB1XlG1XpC1XjB1XjB1XpC1YzL1XpC2bp72XpC1XpC1XpC1XpC2XpB1XpB2XpB1XpB2XeI4ZpRBXj
  B5XpC1XpC1XpC1XpC8XpCXKpI4azTDagAXAbCZo6X4XjK1Yo71XkV1XpC1XpB1bnQ3XpB1bnQ2XpB3XpB2XpB2XpB1bmV3Xp
  B1XlG1XpC1XjK1XjK1XpC1YzA1XpC2bnQ2XpC1XpC1XpC1XpC2XpB1XpB2XpB1XpB2XeI4ZpRBXjK5XpC1XpC1XpC1XpC8Xp
  CXKn64azTDagAXAbCZo6X4XjA1Yn01XkV1XpC1XpB1bp53XpB1bp52XpB3XpB2XpB2XpB1bnF3XpB1XlG1XpC1XjA1XjA1Xp
  C1YzK1XpC2bp52XpC1XpC1XpC1XpC2XpB1XpB2XpB1XpB2XeI4ZpRBXjA5XpC1XpC1XpC1XpC8XpCXKoP4azTDagAXAbCZo6
  X4XjD1YjG1XkV1XpC1XpB1bp83XpB1bp82XpB3XpB2XpB2XpB1bnS3XpB1XlG1XpC1XjD1XjD1XpC1YzM1XpC2bp82XpC1Xp
  C1XpC1XpC2XpB1XpB2XpB1XpB2XeI4ZpRBXjD5XpC1XpC1XpC1XpC8XpCXKqA4azTDagAXAbCZo6X4XjD1YjI1XkV1XpC1Xp
  B1bp83XpB1bp82XpB3XpB2XpB2XpB1bnS3XpB1XlG1XpC1XjD1XjD1XpC1YzM1XpC2bp82XpC1XpC1XpC1XpC2XpB1XpB2Xp
  B1XpB2XeI4ZpRBXjD5XpC1XpC1XpC1XpC8XpCXKqA4azTDagAXAbCZo6X4XjD1YjJ1XkV1XpC1XpB1bp83XpB1bp82XpB3Xp
  B2XpB2XpB1bnS3XpB1XlG1XpC1XjD1XjD1XpC1YzM1XpC2bp82XpC1XpC1XpC1XpC2XpB1XpB2XpB1XpB2XeI4ZpRBXjD5Xp
  C1XpC1XpC1XpC8XpCXKqA4azTDagAXAbCZo6X4XjD1YjK1XkV1XpC1XpB1bp83XpB1bp82XpB3XpB2XpB2XpB1bnS3XpB1Xl
  G1XpC1XjD1XjD1XpC1YzM1XpC2bp82XpC1XpC1XpC1XpC2XpB1XpB2XpB1XpB2XeI4ZpRBXjD5XpC1XpC1XpC1XpC8XpCXKq
  A4azTDagAXAbCZo6X4XjD1YjM1XkV1XpC1XpB1bp83XpB1bp82XpB3XpB2XpB2XpB1bnS3XpB1XlG1XpC1XjD1XjD1XpC1Yz
  M1XpC2bp82XpC1XpC1XpC1XpC2XpB1XpB2XpB1XpB2XeI4ZpRBXjD5XpC1XpC1XpC1XpC8XpCXKqA4azTDagAXAbCZo6X4Xj
  D1YjN1XkV1XpC1XpB1bp83XpB1bp82XpB3XpB2XpB2XpB1bnS3XpB1XlG1XpC1XjD1XjD1XpC1YzM1XpC2bp82XpC1XpC1Xp
  C1XpC2XpB1XpB2XpB1XpB2XeI4ZpRBXjD5XpC1XpC1XpC1XpC8XpCXKqA4azTDagAXAbCZo6X4XjD1YjO1XkV1XpC1XpB1bp
  83XpB1bp82XpB3XpB2XpB2XpB1bnS3XpB1XlG1XpC1XjD1XjD1XpC1YzM1XpC2bp82XpC1XpC1XpC1XpC2XpB1XpB2XpB1Xp
  B2XeI4ZpRBXjD5XpC1XpC1XpC1XpC8XpCXKqA4azTDagAXAbCZo6X4XjD1YjP1XkV1XpC1XpB1bp83XpB1bp82XpB3XpB2Xp
  B2XpB1bnS3XpB1XlG1XpC1XjD1XjD1XpC1YzM1XpC2bp82XpC1XpC1XpC1XpC2XpB1XpB2XpB1XpB2XeI4ZpRBXjD5XpC1Xp
  C1XpC1XpC8XpCXKqA4azTDagAXAbCZo6X4XjD1YjQ1XkV1XpC1XpB1bp83XpB1bp82XpB3XpB2XpB2XpB1bnS3XpB1XlG1Xp
  C1XjD1XjD1XpC1YzM1XpC2bp82XpC1XpC1XpC1XpC2XpB1XpB2XpB1XpB2XeI4ZpRBXjD5XpC1XpC1XpC1XpC8XpCXKqA4az
  TDagAXAbCZo6X4XjD1YjR1XkV1XpC1XpB1bp83XpB1bp82XpB3XpB2XpB2XpB1bnS3XpB1XlG1XpC1XjD1XjD1XpC1YzM1Xp
  C2bp82XpC1XpC1XpC1XpC2XpB1XpB2XpB1XpB2XeI4ZpRBXjD5XpC1XpC1XpC1XpC8XpCXKqA4azTDagAXAbCZo6X4XjD1Yj
  S1XkV1XpC1XpB1bp83XpB1bp82XpB3XpB2XpB2XpB1bnS3XpB1XlG1XpC1XjD1XjD1XpC1YzM1XpC2bp82XpC1XpC1XpC1Xp
  C2XpB1XpB2XpB1XpB2XeI4ZpRBXjD5XpC1XpC1XpC1XpC8XpCXKqA4azTDagAXAbCZo6X4XjD1YjT1XkV1XpC1XpB1bp83Xp
  B1bp82XpB3XpB2XpB2XpB1bnS3XpB1XlG1XpC1XjD1XjD1XpC1YzM1XpC2bp82XpC1XpC1XpC1XpC2XpB1XpB2XpB1XpB2Xe
  I4ZpRBXjD5XpC1XpC1XpC1XpC8XpCXKqA4azTDagAXAbCZo6X4XjD1YjU1XkV1XpC1XpB1bp83XpB1bp82XpB3XpB2XpB2Xp
  B1bnS3XpB1XlG1XpC1XjD1XjD1XpC1YzM1XpC2bp82XpC1XpC1XpC1XpC2XpB1XpB2XpB1XpB2XeI4ZpRBXjD5XpC1XpC1Xp
  C1XpC8XpCXKqA4azTDagAXAbCZo6X4XjD1YjV1XkV1XpC1XpB1bp83XpB1bp82XpB3XpB2XpB2XpB1bnS3XpB1XlG1XpC1Xj
  D1XjD1XpC1YzM1XpC2bp82XpC1XpC1XpC1XpC2XpB1XpB2XpB1XpB2XeI4ZpRBXjD5XpC1XpC1XpC1XpC8XpCXKqA4azTDag
  AXAbCZo6X4XjD1Yk01XkV1XpC1XpB1bp83XpB1bp82XpB3XpB2XpB2XpB1bnS3XpB1XlG1XpC1XjD1XjD1XpC1YzM1XpC2bp
  82XpC1XpC1XpC1XpC2XpB1XpB2XpB1XpB2XeI4ZpRBXjD5XpC1XpC1XpC1XpC8XpCXKqA4azTDagAXAbCZo6X4XjD1Yk11Xk
  V1XpC1XpB1bp83XpB1bp82XpB3XpB2XpB2XpB1bnS3XpB1XlG1XpC1XjD1XjD1XpC1YzM1XpC2bp82XpC1XpC1XpC1XpC2Xp
  B1XpB2XpB1XpB2XeI4ZpRBXjD5XpC1XpC1XpC1XpC8XpCXKqA4azTDagAXAbCZo6X4XjD1Yk31XkV1XpC1XpB1bp83XpB1bp
  82XpB3XpB2XpB2XpB1bnS3XpB1XlG1XpC1XjD1XjD1XpC1YzM1XpC2bp82XpC1XpC1XpC1XpC2XpB1XpB2XpB1XpB2XeI4Zp
  RBXjD5XpC1XpC1XpC1XpC8XpCXKqA4azTDagAXAbCZo6X4XjD1Yk71XkV1XpC1XpB1bp83XpB1bp82XpB3XpB2XpB2XpB1bn
  S3XpB1XlG1XpC1XjD1XjD1XpC1YzM1XpC2bp82XpC1XpC1XpC1XpC2XpB1XpB2XpB1XpB2XeI4ZpRBXjD5XpC1XpC1XpC1Xp
  C8XpCXKqA4azTDagAXAbCZo6X4XjD1Yk81XkV1XpC1XpB1bp83XpB1bp82XpB3XpB2XpB2XpB1bnS3XpB1XlG1XpC1XjD1Xj
  D1XpC1YzM1XpC2bp82XpC1XpC1XpC1XpC2XpB1XpB2XpB1XpB2XeI4ZpRBXjD5XpC1XpC1XpC1XpC8XpCXKqA4azTDagAXAb
  CZo6X4XjD1Yk91XkV1XpC1XpB1bp83XpB1bp82XpB3XpB2XpB2XpB1bnS3XpB1XlG1XpC1XjD1XjD1XpC1YzM1XpC2bp82Xp
  C1XpC1XpC1XpC2XpB1XpB2XpB1XpB2XeI4ZpRBXjD5XpC1XpC1XpC1XpC8XpCXKqA4azTDagAXAbCZo6X4XjD1YkB1XkV1Xp
  C1XpB1bp83XpB1bp82XpB3XpB2XpB2XpB1bnS3XpB1XlG1XpC1XjD1XjD1XpC1YzM1XpC2bp82XpC1XpC1XpC1XpC2XpB1Xp
  B2XpB1XpB2XeI4ZpRBXjD5XpC1XpC1XpC1XpC8XpCXKqA4azTDagAXAbCZo6X4XjL1Yo71XkV1XpC1XpB1bo03XpB1bo02Xp
  B3XpB2XpB2XpB1bmV3XpB1XlG1XpC1XjL1XjL1XpC1YzA1XpC2bo02XpC1XpC1XpC1XpC2XpB1XpB2XpB1XpB2XeI4ZpRBXj
  L5XpC1XpC1XpC1XpC8XpCXKn64azTDagAXAbCZo6X4XjA1Yn11XkV1XpC1XpB1bp53XpB1bp52XpB3XpB2XpB2XpB1bnF3Xp
  B1XlG1XpC1XjA1XjA1XpC1YzK1XpC2bp52XpC1XpC1XpC1XpC2XpB1XpB2XpB1XpB2XeI4ZpRBXjA5XpC1XpC1XpC1XpC8Xp
  CXKoP4azTDagAXAbCZiHX4XhN1YeR1XtA1YXN1YXL1bo43YXL1bo42YXL3YXL2YXL2YXL1bo33YXL1XwC1YXN1XhN1XhN1YX
  N1YzN1YXN2bo42YXN1YXN1YXN1YXN2YXL1YXL2YXL1YXL2XeI4ZpRBXhN5YXN1YXN1YXN1YXN8YXNXKkR4azTDacRXAbCZiH
  X4XhN1YeT1XtA1YXN1YXL1bo43YXL1bo42YXL3YXL2YXL2YXL1bo33YXL1XwC1YXN1XhN1XhN1YXN1YzN1YXN2bo42YXN1YX
  N1YXN1YXN2YXL1YXL2YXL1YXL2XeI4ZpRBXhN5YXN1YXN1YXN1YXN8YXNXKkR4azTDacRXAbCZo6X4XfM1Xt91XkV1XpC1Xp
  B1boQ3XpB1boQ2XpB3XpB2XpB2XpB1bmM3XpB1XlG1XpC1XfM1XfM1XpC1Yz51XpC2boQ2XpC1XpC1XpC1XpC2XpB1XpB2Xp
  B1XpB2XeI4ZpRBXfM5XpC1XpC1XpC1XpC8XpCXKlK4azTDagAXAbCZiHX4XgK1Xw81XtA1YXN1YXL1boT3YXL1boT2YXL3YX
  L2YXL2YXL1boS3YXL1XwC1YXN1XgK1XgK1YXN1YzO1YXN2boT2YXN1YXN1YXN1YXN2YXL1YXL2YXL1YXL2XeI4ZpRBXgK5YX
  N1YXN1YXN1YXN8YXNXKmF4azTDacRXAbCZo6X4XhF1YXJ1XkV1XpC1XpB1bp33XpB1bp32XpB3XpB2XpB2XpB1bn73XpB1Xl
  G1XpC1XhF1XhF1XpC1YzF1XpC2bp32XpC1XpC1XpC1XpC2XpB1XpB2XpB1XpB2XeI4ZpRBXhF5XpC1XpC1XpC1XpC8XpCXKo
  04azTDagAXAbCZo6X4XjA1Yj91XkV1XpC1XpB1bp53XpB1bp52XpB3XpB2XpB2XpB1bnF3XpB1XlG1XpC1XjA1XjA1XpC1Yz
  K1XpC2bp52XpC1XpC1XpC1XpC2XpB1XpB2XpB1XpB2XeI4ZpRBXjA5XpC1XpC1XpC1XpC8XpCXKoP4azTDagAXAbCZo6X4Xj
  B1YjD1XkV1XpC1XpB1bp73XpB1bp72XpB3XpB2XpB2XpB1bnM3XpB1XlG1XpC1XjB1XjB1XpC1YzL1XpC2bp72XpC1XpC1Xp
  C1XpC2XpB1XpB2XpB1XpB2XeI4ZpRBXjB5XpC1XpC1XpC1XpC8XpCXKpI4azTDagAXAbCZo6X4XjM1Yo71XkV1XpC1XpB1bo
  93XpB1bo92XpB3XpB2XpB2XpB1bmV3XpB1XlG1XpC1XjM1XjM1XpC1YzA1XpC2bo92XpC1XpC1XpC1XpC2XpB1XpB2XpB1Xp
  B2XeI4ZpRBXjM5XpC1XpC1XpC1XpC8XpCXKn64azTDagAXAbCZo6X4XjA1Yn31XkV1XpC1XpB1bp53XpB1bp52XpB3XpB2Xp
  B2XpB1bnF3XpB1XlG1XpC1XjA1XjA1XpC1YzK1XpC2bp52XpC1XpC1XpC1XpC2XpB1XpB2XpB1XpB2XeI4ZpRBXjA5XpC1Xp
  C1XpC1XpC8XpCXKoP4azTDagAXAbCZo6X4XjN1Yo71XkV1XpC1XpB1bp13XpB1bp12XpB3XpB2XpB2XpB1bmV3XpB1XlG1Xp
  C1XjN1XjN1XpC1YzA1XpC2bp12XpC1XpC1XpC1XpC2XpB1XpB2XpB1XpB2XeI4ZpRBXjN5XpC1XpC1XpC1XpC8XpCXKn64az
  TDagAXAbCZo6X4XjA1Yn41XkV1XpC1XpB1bp53XpB1bp52XpB3XpB2XpB2XpB1bnF3XpB1XlG1XpC1XjA1XjA1XpC1YzK1Xp
  C2bp52XpC1XpC1XpC1XpC2XpB1XpB2XpB1XpB2XeI4ZpRBXjA5XpC1XpC1XpC1XpC8XpCXKoP4azTDagA8d3bdLJZq4AZpR7
  Zq41Zq4YBazTIai31ai48d3bdLJZq4AZpR7Zq41Zq4YBazTIax51ai4JbBvIBvB1vBX5vB3vB2vBRXeIIvBAvB1vB1vB1vD2
  vB2vB2vB3vBXSZuA5ai31ai4JbBvIBvB1vBX5vB3vB2vBRXeIIvBAvB1vB1vB1vD2vB2vB2vB3vBXSZuA5ax51ai4Jb7azV1
  acN3vCBvB1vBX5vB3vB2vBRXeIIvBAvB1vB1vB1vD2vB2vB2vB3vBXSZuA6dMZq4HZq41Zq4UYrTXVai31ai46dMZq4HZq41
  Zq4UYrTXVax51ai45dMZq4HZq41Zq4YTai31ai45dMZq4HZq41Zq4YTax51ai4HbBvIBvB1vBX5vB3vB2vBRXeIIvBAvB1vB
  1vB1vD2vB2vB2vB3vBXSZuA2h5ai31ai42h5ax51ai4HbBaY8BaY51aY5X5aY53aY52aY5RXeIIaY5AaY51aY51aY51aY72a
  Y52aY52aY53aY5XSacD3d3bn2TZpRYJazT3d3bmQTZpRYJazT3d3bdLTZpRYJazT3d3bh2TZpRYJazT3d3bp0TZpRYJazT3d
  3bnPTZpRYJazT3d3bnATZpRYJazT2cEu11w03d3bo8TZpRYJazT3d3bnITZpRYJazT3d3bnVTZpRYJazT1cFwP1bPz0X5bCa
  zCXEbdTSYwLAboC3a_6RYwDGZcD1YwF3ZqB1aiL1aiL1aiL1aiL1aiL1YwN1YwO2YwP1YwN1YwP1YwP7YwP1YwP1YwP2YwP1
  YwQ1YwP1YwP1YwP1YwP2YwP3bcR6YwP1YwP1YwN1YwP1YwP1YwN1bQwLX5bCazCXEbdTSYwLAboC3a_6RYwDGZcD1YwF3ZqB
  1axC1axC1axC1axC1axC1YwN1YwO2YwP1YwN1YwP1YwP7YwP1YwP1YwP2YwP1YwQ1YwP1YwP1YwP1YwP2YwP3bcR6YwP1YwP
  1YwN1YwP1YwP1YwNX5bCazCXEbdTSYwLAboC3a_6RYwDGZcD1YwF3ZqB1ay21ay21ay21ay21ay21YwN1YwO2YwP1YwN1YwP
  1YwP7YwP1YwP1YwP2YwP1YwQ1YwP1YwP1YwP1YwP2YwP3bcR6YwP1YwP1YwN1YwP1YwP1YwNX5bCazCXEbdTSYwLAboC3a_6
  RYwDGZcD1YwF3ZqB1ayE1ayE1ayE1ayE1ayE1YwN1YwO2YwP1YwN1YwP1YwP7YwP1YwP1YwP2YwP1YwQ1YwP1YwP1YwP1YwP
  2YwP3bcR6YwP1YwP1YwN1YwP1YwP1YwNX5bCazCXEbdTSYwLAboC3a_6RYwDGZcD1YwF3ZqB1ayM1ayM1ayM1ayM1ayM1YwN
  1YwO2YwP1YwN1YwP1YwP7YwP1YwP1YwP2YwP1YwQ1YwP1YwP1YwP1YwP2YwP3bcR6YwP1YwP1YwN1YwP1YwP1YwNX5bCazCX
  EbdTSYwLAboC3a_6RYwDGZcD1YwF3ZqB1bXK1bXK1bXK1bXK1bXK1YwN1YwO2YwP1YwN1YwP1YwP7YwP1YwP1YwP2YwP1YwQ
  1YwP1YwP1YwP1YwP2YwP3bcR6YwP1YwP1YwN1YwP1YwP1YwNX1bCahLXEbdTSYwLAbdUUYwDGZXE1ZbO1a_E2ZcO6YwN1YwO
  2YwP1YwN1YwP1YwP1a_F6YwP1YwP1YwP2YwP1YwQ1YwP1YwP1YwP1YzT2YwP3a-A6YwP1YwP1YwN1YwP1YwP1YwNX1bCahLX
  EbdTSYwLAbdUUYwDGYwE1YwF1YxA2Y_96YwN1YwO2YwP1YwN1YwP1YwP1YxA6YwP1YwP1YwP2YwP1YwQ1YwP1YwP1YwP1YzT
  2YwP3a-A6YwP1YwP1YwN1YwP1YwP1YwNX1bCahLXEbdTSYwLAbdUUYwDGYwE1YwF1YxL2Y_E6YwN1YwO2YwP1YwN1YwP1YwP
  1YxL6YwP1YwP1YwP2YwP1YwQ1YwP1YwP1YwP1YzT2YwP3a-A6YwP1YwP1YwN1YwP1YwP1YwNX1bCayLXEbnKSZf1AbkUUZaV
  GZa11ZeU1aYK2ZhL6Zf31Zf42Zf51Zf31Zf51Zf51aYL6Zf51Zf51Zf52Zf51Zf61Zf51Zf51Zf51Zc02Zf53bcJ6Zf51Zf5
  1Zf31Zf51Zf51Zf3X1bCax2XEbm5SXxNAbh9UXuJGXuK1XxP1X-02X-16XxQ1XxR2XxS1XxQ1XxS1XxS1X-06XxS1XxS1XxS
  2XxS1XxT1XxS1XxS1XxS1Xv12XxS3bc56XxS1XxS1XxQ1XxS1XxS1XxQX1bCax2XEbm5SXxNAbh9UXuJGXuK1XxP1X-V2X_0
  6XxQ1XxR2XxS1XxQ1XxS1XxS1X-V6XxS1XxS1XxS2XxS1XxT1XxS1XxS1XxS1Xv12XxS3bc56XxS1XxS1XxQ1XxS1XxS1XxQ
  X1bCaxUXEbmTSZZEAbiJUY_PGY-N1ZYJ1Za92ZaA6ZZG1ZZH2ZZI1ZZG1ZZI1ZZI1Za96ZZI1ZZI1ZZI2ZZI1ZZJ1ZZI1ZZI
  1ZZI1ZYO2ZZI3bcD6ZZI1ZZI1ZZG1ZZI1ZZI1ZZGX1bCaxUXEbmTSZZEAbiJUY_PGY-N1ZYJ1ZaK2ZaL6ZZG1ZZH2ZZI1ZZG
  1ZZI1ZZI1ZaK6ZZI1ZZI1ZZI2ZZI1ZZJ1ZZI1ZZI1ZZI1ZYO2ZZI3bcD6ZZI1ZZI1ZZG1ZZI1ZZI1ZZGX1bCayDXEbn5SXm4
  AbjPUXl5GXl61Xm61XnB2XnC6Xm71Xm82Xm91Xm71Xm91Xm91XnB6Xm91Xm91Xm92Xm91XmA1Xm91Xm91Xm91XlC2Xm93bcG
  6Xm91Xm91Xm71Xm91Xm91Xm7X1bCayDXEbn5SXm4AbjPUXl5GXl61Xm61Xo72Xo86Xm71Xm82Xm91Xm71Xm91Xm91Xo76Xm9
  1Xm91Xm92Xm91XmA1Xm91Xm91Xm91XlC2Xm93bcG6Xm91Xm91Xm71Xm91Xm91Xm7X1bCayLXEbnKSZf1AbkUUZaVGZYT1Zc5
  1ZfT2ZfU6Zf31Zf42Zf51Zf31Zf51Zf51ZfT6Zf51Zf51Zf52Zf51Zf61Zf51Zf51Zf51Zc02Zf53bcJ6Zf51Zf51Zf31Zf5
  1Zf51Zf3X1bCayLXEbnKSZf1AbkUUZaVGZYT1Zc51Zg92ZgA6Zf31Zf42Zf51Zf31Zf51Zf51Zg96Zf51Zf51Zf52Zf51Zf6
  1Zf51Zf51Zf51Zc02Zf53bcJ6Zf51Zf51Zf31Zf51Zf51Zf3X1bCazHXEbdTSYwLAbm6UZiBGZh31YwF1YxA2ZsM6YwN1YwO
  2YwP1YwN1YwP1YwP1YxA6YwP1YwP1YwP2YwP1YwQ1YwP1YwP1YwP1Zp92YwP3bcN6YwP1YwP1YwN1YwP1YwP1YwNX1bCazHX
  EbdTSYwLAbm6UZiBGZh31YwF1YxL2ZsR6YwN1YwO2YwP1YwN1YwP1YwP1YxL6YwP1YwP1YwP2YwP1YwQ1YwP1YwP1YwP1Zp9
  2YwP3bcN6YwP1YwP1YwN1YwP1YwP1YwNX1bCaxUXEbmTSZZEAbiJUY_PGY_O1ZZA1Zs42ZbV6ZZG1ZZH2ZZI1ZZG1ZZI1ZZI
  1Zs56ZZI1ZZI1ZZI2ZZI1ZZJ1ZZI1ZZI1ZZI1ZYO2ZZI3bcD6ZZI1ZZI1ZZG1ZZI1ZZI1ZZGX1bCazCXEbdTSYwLAboCUYwD
  GZcD1YwF1YxA2ZpA6YwN1YwO2YwP1YwN1YwP1YwP1YxA6YwP1YwP1YwP2YwP1YwQ1YwP1YwP1YwP1ZiE2YwP3bcR6YwP1YwP
  1YwN1YwP1YwP1YwNX1bCazCXEbdTSYwLAboCUYwDGZcD1YwF1YxL2ZpD6YwN1YwO2YwP1YwN1YwP1YwP1YxL6YwP1YwP1YwP
  2YwP1YwQ1YwP1YwP1YwP1ZiE2YwP3bcR6YwP1YwP1YwN1YwP1YwP1YwNX0bCahLXEbdTSYwLAbdUUYwDGYwE1YwF3Zq06YwN
  1YwO2YwP1YwN1YwP1YwP7YwP1YwP1YwP2YwP1YwQ1YwP1YwP1YwP1YwP2YwP3a-A1ahM5YwP1YwP1YwN1YwP1YwP1YwNVbCa
  hLXEbdTSYwLAbdUUYwDGYwE1YwF3ZqR6YwN1YwO2YwP1YwN1YwP1YwP7YwP1YwP1YwP2YwP1YwQ1YwP1YwP1YwP1YwP2YwP3
  a-A6YwP1YwP1YwN1YwP1YwP1YwNVbCahLXEbdTSYwLAbdUUYwDGYwE1YwF3ae46YwN1YwO2YwP1YwN1YwP1YwP7YwP1YwP1Y
  wP2YwP1YwQ1YwP1YwP1YwP1YwP2YwP3a-A6YwP1YwP1YwN1YwP1YwP1YwNVbCahLXEbdTSYwLAbdUUYwDGYwE1YwF3af66Yw
  N1YwO2YwP1YwN1YwP1YwP7YwP1YwP1YwP2YwP1YwQ1YwP1YwP1YwP1YwP2YwP3a-A6YwP1YwP1YwN1YwP1YwP1YwNVbCahLX
  EbdTSYwLAbdUUYwDGYwE1YwF3afF6YwN1YwO2YwP1YwN1YwP1YwP7YwP1YwP1YwP2YwP1YwQ1YwP1YwP1YwP1YwP2YwP3a-A
  6YwP1YwP1YwN1YwP1YwP1YwNVbCahLXEbdTSYwLAbdUUYwDGYwE1YwF3afN6YwN1YwO2YwP1YwN1YwP1YwP7YwP1YwP1YwP2
  YwP1YwQ1YwP1YwP1YwP1YwP2YwP3a-A6YwP1YwP1YwN1YwP1YwP1YwNVbCahLXEbdTSYwLAbdUUYwDGYwE1YwF3afV6YwN1Y
  wO2YwP1YwN1YwP1YwP7YwP1YwP1YwP2YwP1YwQ1YwP1YwP1YwP1YwP2YwP3a-A6YwP1YwP1YwN1YwP1YwP1YwNVbCahLXEbd
  TSYwLAbdUUYwDGYwE1YwF3Zq86YwN1YwO2YwP1YwN1YwP1YwP7YwP1YwP1YwP2YwP1YwQ1YwP1YwP1YwP1YwP2YwP3a-A6Yw
  P1YwP1YwN1YwP1YwP1YwNVbCahLXEbdTSYwLAbdUUYwDGYwE1YwF3YwT6YwN1YwO2YwP1YwN1YwP1YwP7YwP1YwP1YwP2YwP
  1YwQ1YwP1YwP1YwP1YwP2YwP3a-A6YwP1YwP1YwN1YwP1YwP1YwNVbCahLXEbdTSYwLAbdUUYwDGYwE1YwF3Y_46YwN1YwO2
  YwP1YwN1YwP1YwP7YwP1YwP1YwP2YwP1YwQ1YwP1YwP1YwP1YwP2YwP3a-A6YwP1YwP1YwN1YwP1YwP1YwNVbCahLXEbdTSY
  wLAbdUUYwDGYwE1YwF3aiM6YwN1Yx12YwP1YwN1YwP1YwP7YwP1YwP1YwP2YwP1YwQ1YwP1YwP1YwP1YwP2YwP3a-A6YwP1Y
  wP1YwN1YwP1YwP1YwNVbCahLXEbdTSYwLAbdUUYwDGYwE1YwF3aiM6YwN1Yx22YwP1YwN1YwP1YwP7YwP1YwP1YwP2YwP1Yw
  Q1YwP1YwP1YwP1YwP2YwP3a-A6YwP1YwP1YwN1YwP1YwP1YwNVbCahLXEbdTSYwLAbdUUYwDGYwE1YwF3Zq06YwN1YwO2YwP
  1YwN1YwP1YwP7YwP1YwP1YwP2YwP1YwQ1YwP1YwP1YwP1YwP2YwP3a-A6YwP1YwP1YwN1YwP1YwP1YwNVbCax2XEbm5SXxNA
  bh9UXuJGXuK1XxP3XwS6XxQ1XxR2XxS1XxQ1XxS1XxS7XxS1XxS1XxS2XxS1XxT1XxS1XxS1XxS1XxS2XxS3bc56XxS1XxS1
  XxQ1XxS1XxS1XxQVbCax2XEbm5SXxNAbh9UXuJGXuK1XxP3XwV6XxQ1XxR2XxS1XxQ1XxS1XxS7XxS1XxS1XxS2XxS1XxT1X
  xS1XxS1XxS1XxS2XxS3bc56XxS1XxS1XxQ1XxS1XxS1XxQVbCaxUXEbmTSZZEAbiJUY_PGY-N1ZYJ3Zv86ZZG1ZZH2ZZI1ZZ
  G1ZZI1ZZI7ZZI1ZZI1ZZI2ZZI1ZZJ1ZZI1ZZI1ZZI1ZZI2ZZI3bcD6ZZI1ZZI1ZZG1ZZI1ZZI1ZZGVbCaxUXEbmTSZZEAbiJ
  UY_PGY_O1ZZA3ZbV6ZZG1ZZH2ZZI1ZZG1ZZI1ZZI7ZZI1ZZI1ZZI2ZZI1ZZJ1ZZI1ZZI1ZZI1ZZI2ZZI3bcD6ZZI1ZZI1ZZG
  1ZZI1ZZI1ZZGVbCahLXEbdTSYwLAbdUUYwDGYwE1YwF3aiM6YwN1ZvP2YwP1ae11YwP1YwP7YwP1YwP1YwP2YwP1YwQ1YwP1
  YwP1YwP1YwP2YwP3a-A6YwP1YwP1YwN1YwP1YwP1YwNVbCahLXEbdTSYwLAbdUUYwDGYwE1YwF3ZvR6YwN1YwO2YwP1YwN1Y
  wP1YwP7YwP1YwP1YwP2YwP1YwQ1YwP1YwP1YwP1YwP2YwP3a-A6YwP1YwP1YwN1YwP1YwP1YwNVbCahLXEbdTSYwLAbdUUYw
  DGYwE1YwF3ZqQ6YwN1YwO2YwP1YwN1YwP1YwP7YwP1YwP1YwP2YwP1YwQ1YwP1YwP1YwP1YwP2YwP3a-A6YwP1YwP1YwN1Yw
  P1YwP1YwNVbCahLXEbdTSYwLAbdUUYwDGYwE1YwF3YxB6YwN1YwO2YwP1YwN1YwP1YwP7YwP1YwP1YwP2YwP1YwQ1YwP1YwP
  1YwP1YwP2YwP3a-A6YwP1YwP1YwN1YwP1YwP1YwNVbCahLXEbdTSYwLAbdUUYwDGYwE1YwF3Y_A6YwN1YwO2YwP1YwN1YwP1
  YwP7YwP1YwP1YwP2YwP1YwQ1YwP1YwP1YwP1YwP2YwP3a-A6YwP1YwP1YwN1YwP1YwP1YwNVbCazCXEbdTSYwLAboCUYwDGZ
  cD1YwF3ae26YwN1YwO2YwP1YwN1YwP1YwP7YwP1YwP1YwP2YwP1YwQ1YwP1YwP1YwP1YwP2YwP3bcR6YwP1YwP1YwN1YwP1Y
  wP1YwNVbCaxUXEbmTSZZEAbiJUY_PGY-N1ZYJ3Zw16ZZG1ZZH2ZZI1ZZG1ZZI1ZZI7ZZI1ZZI1ZZI2ZZI1ZZJ1ZZI1ZZI1ZZ
  I1ZZI2ZZI3bcD6ZZI1ZZI1ZZG1ZZI1ZZI1ZZGVbCahLXEbdTSYwLAbdUUYwDGYwE1YwF3YxJ6YwN1YwO2YwP1YwN1YwP1YwP
  7YwP1YwP1YwP2YwP1YwQ1YwP1YwP1YwP1YwP2YwP3a-A6YwP1YwP1YwN1YwP1YwP1YwNVbCahLXEbdTSYwLAbdUUYwDGYwE1
  YwF3Y_D6YwN1YwO2YwP1YwN1YwP1YwP7YwP1YwP1YwP2YwP1YwQ1YwP1YwP1YwP1YwP2YwP3a-A6YwP1YwP1YwN1YwP1YwP1
  YwNVbCahLXEbdTSYwLAbdUUYwDGYwE1YwF3Y_F6YwN1YwO2YwP1YwN1YwP1YwP7YwP1YwP1YwP2YwP1YwQ1YwP1YwP1YwP1Y
  wP2YwP3a-A6YwP1YwP1YwN1YwP1YwP1YwNVbCahLXEbdTSYwLAbdUUYwDGYwE1YwF3Y_G6YwN1YwO2YwP1YwN1YwP1YwP7Yw
  P1YwP1YwP2YwP1YwQ1YwP1YwP1YwP1YwP2YwP3a-A6YwP1YwP1YwN1YwP1YwP1YwNVbCahLXEbdTSYwLAbdUUYwDGYwE1YwF
  3aeD6YwN1YwO2YwP1YwN1YwP1YwP7YwP1YwP1YwP2YwP1YwQ1YwP1YwP1YwP1YwP2YwP3a-A6YwP1YwP1YwN1YwP1YwP1YwN
  VbCazHXEbdTSYwLAbm6UZiBGZh31YwF3ZwO6YwN1YwO2YwP1YwN1YwP1YwP7YwP1YwP1YwP2YwP1YwQ1YwP1YwP1YwP1YwP2
  YwP3bcN6YwP1YwP1YwN1YwP1YwP1YwNVbCahLXEbdTSYwLAbdUUYwDGYwE1YwF3aeE6YwN1YwO2YwP1YwN1YwP1YwP7YwP1Y
  wP1YwP2YwP1YwQ1YwP1YwP1YwP1YwP2YwP3a-A6YwP1YwP1YwN1YwP1YwP1YwNVbCahLXEbdTSYwLAbdUUYwDGYwE1YwF3Yx
  N6YwN1YwO2YwP1YwN1YwP1YwP7YwP1YwP1YwP2YwP1YwQ1YwP1YwP1YwP1YwP2YwP3a-A6YwP1YwP1YwN1YwP1YwP1YwNVbC
  ahLXEbdTSYwLAbdUUYwDGYwE1YwF3YxO6YwN1YwO2YwP1YwN1YwP1YwP7YwP1YwP1YwP2YwP1YwQ1YwP1YwP1YwP1YwP2YwP
  3a-A6YwP1YwP1YwN1YwP1YwP1YwNVbCahLXEbdTSYwLAbdUUYwDGYwE1YwF3aeF6YwN1YwO2YwP1YwN1YwP1YwP7YwP1YwP1
  YwP2YwP1YwQ1YwP1YwP1YwP1YwP2YwP3a-A6YwP1YwP1YwN1YwP1YwP1YwNVbCaxUXEbmTSZZEAbiJUY_PGY-N1ZYJ3ZxE6Z
  ZG1ZZH2ZZI1ZZG1ZZI1ZZI7ZZI1ZZI1ZZI2ZZI1ZZJ1ZZI1ZZI1ZZI1ZZI2ZZI3bcD6ZZI1ZZI1ZZG1ZZI1ZZI1ZZGVbCaxU
  XEbmTSZZEAbiJUY_PGY-N1ZYJ3ZhD6ZZG1ZZH2ZZI1ZZG1ZZI1ZZI7ZZI1ZZI1ZZI2ZZI1ZZJ1ZZI1ZZI1ZZI1ZZI2ZZI3bc
  D6ZZI1ZZI1ZZG1ZZI1ZZI1ZZGVbCaxUXEbmTSZZEAbiJUY_PGY-N1ZYJ3ZhE6ZZG1ZZH2ZZI1ZZG1ZZI1ZZI7ZZI1ZZI1ZZI
  2ZZI1ZZJ1ZZI1ZZI1ZZI1ZZI2ZZI3bcD6ZZI1ZZI1ZZG1ZZI1ZZI1ZZGVbCaxUXEbmTSZZEAbiJUY_PGY-N1ZYJ3ZhF6ZZG1
  ZZH2ZZI1ZZG1ZZI1ZZI7ZZI1ZZI1ZZI2ZZI1ZZJ1ZZI1ZZI1ZZI1ZZI2ZZI3bcD6ZZI1ZZI1ZZG1ZZI1ZZI1ZZGVbCahLXEb
  dTSYwLAbdUUYwDGYwE1YwF3aeI6YwN1YwO2YwP1YwN1YwP1YwP7YwP1YwP1YwP2YwP1YwQ1YwP1YwP1YwP1YwP2YwP3a-A6Y
  wP1YwP1YwN1YwP1YwP1YwNVbCahLXEbdTSYwLAbdUUYwDGYwE1YwF3aeJ6YwN1YwO2YwP1YwN1YwP1YwP7YwP1YwP1YwP2Yw
  P1YwQ1YwP1YwP1YwP1YwP2YwP3a-A6YwP1YwP1YwN1YwP1YwP1YwNVbCahLXEbdTSYwLAbdUUYwDGYwE1YwF3YxP6YwN1YwO
  2YwP1YwN1YwP1YwP7YwP1YwP1YwP2YwP1YwQ1YwP1YwP1YwP1YwP2YwP3a-A6YwP1YwP1YwN1YwP1YwP1YwNVbCahLXEbdTS
  YwLAbdUUYwDGYwE1YwF3aeK6YwN1YwO2YwP1YwN1YwP1YwP7YwP1YwP1YwP2YwP1YwQ1YwP1YwP1YwP1YwP2YwP3a-A6YwP1
  YwP1YwN1YwP1YwP1YwNVbCahLXEbdTSYwLAbdUUYwDGYwE1YwF3aeL6YwN1YwO2YwP1YwN1YwP1YwP7YwP1YwP1YwP2YwP1Y
  wQ1YwP1YwP1YwP1YwP2YwP3a-A6YwP1YwP1YwN1YwP1YwP1YwNVbCahLXEbdTSYwLAbdUUYwDGYwE1YwF3aeM6YwN1YwO2Yw
  P1YwN1YwP1YwP7YwP1YwP1YwP2YwP1YwQ1YwP1YwP1YwP1YwP2YwP3a-A6YwP1YwP1YwN1YwP1YwP1YwNVbCahLXEbdTSYwL
  AbdUUYwDGYwE1YwF3Y_M6YwN1YwO2YwP1YwN1YwP1YwP7YwP1YwP1YwP2YwP1YwQ1YwP1YwP1YwP1YwP2YwP3a-A6YwP1YwP
  1YwN1YwP1YwP1YwNVbCax2XEbm5SXxNAbh9UXuJGXuK1XxP3XyC6XxQ1XxR2XxS1XxQ1XxS1XxS7XxS1XxS1XxS2XxS1XxT1
  XxS1XxS1XxS1XxS2XxS3bc56XxS1XxS1XxQ1XxS1XxS1XxQVbCax2XEbm5SXxNAbh9UXuJGXuK1XxP3XyD6XxQ1XxR2XxS1X
  xQ1XxS1XxS7XxS1XxS1XxS2XxS1XxT1XxS1XxS1XxS1XxS2XxS3bc56XxS1XxS1XxQ1XxS1XxS1XxQVbCax2XEbm5SXxNAbh
  9UXuJGXuK1XxP3XyH6XxQ1XxR2XxS1XxQ1XxS1XxS7XxS1XxS1XxS2XxS1XxT1XxS1XxS1XxS1XxS2XxS3bc56XxS1XxS1Xx
  Q1XxS1XxS1XxQVbCahLXEbm5SXxNAbdUUXuJGYwE1YwF3axD6YwN1XyI2XxS1YwN1XxS1XxS7XxS1XxS1XxS2XxS1XxT1XxS
  1XxS1XxS1XxS2XxS3a-A6XxS1XxS1YwN1XxS1XxS1YwNVbCahLXEbm5SXxNAbdUUXuJGYwE1YwF3axD6YwN1XyK2XxS1YwN1
  XxS1XxS7XxS1XxS1XxS2XxS1XxT1XxS1XxS1XxS1XxS2XxS3a-A6XxS1XxS1YwN1XxS1XxS1YwNVbCahLXEbdTSYwLAbdUUY
  wDGZXE1ZbO3ZcO6YwN1YwO2YwP1YwN1YwP1YwP7YwP1YwP1YwP2YwP1YwQ1YwP1YwP1YwP1YwP2YwP3a-A6YwP1YwP1YwN1Y
  wP1YwP1YwNVbCax2XEbm5SXxNAbh9UXuJGXuK1XxP3X-76XxQ1XxR2XxS1XxQ1XxS1XxS7XxS1XxS1XxS2XxS1XxT1XxS1Xx
  S1XxS1XxS2XxS3bc56XxS1XxS1XxQ1XxS1XxS1XxQVbCax2XEbm5SXxNAbh9UXuJGXuK1XxP3X-86XxQ1XxR2XxS1XxQ1XxS
  1XxS7XxS1XxS1XxS2XxS1XxT1XxS1XxS1XxS1XxS2XxS3bc56XxS1XxS1XxQ1XxS1XxS1XxQVbCax2XEbm5SXxNAbh9UXuJG
  XuK1XxP3X-R6XxQ1XxR2XxS1XxQ1XxS1XxS7XxS1XxS1XxS2XxS1XxT1XxS1XxS1XxS1XxS2XxS3bc56XxS1XxS1XxQ1XxS1
  XxS1XxQVbCax2XEbm5SXxNAbh9UXuJGXuK1XxP3X-S6XxQ1XxR2XxS1XxQ1XxS1XxS7XxS1XxS1XxS2XxS1XxT1XxS1XxS1X
  xS1XxS2XxS3bc56XxS1XxS1XxQ1XxS1XxS1XxQVbCayLXEbnKSZf1AbkUUZaVGZYT1Zc53ZeR6Zf31Zf42Zf51Zf31Zf51Zf
  57Zf51Zf51Zf52Zf51Zf61Zf51Zf51Zf51Zf52Zf53bcJ6Zf51Zf51Zf31Zf51Zf51Zf3VbCayLXEbnKSZf1AbkUUZaVGZYT
  1Zc53ZeS6Zf31Zf42Zf51Zf31Zf51Zf57Zf51Zf51Zf52Zf51Zf61Zf51Zf51Zf51Zf52Zf53bcJ6Zf51Zf51Zf31Zf51Zf5
  1Zf3VbCax2XEbm5SXxNAbh9UXuJGXuK1XxP3X_E6XxQ1XxR2XxS1XxQ1XxS1XxS7XxS1XxS1XxS2XxS1XxT1XxS1XxS1XxS1
  XxS2XxS3bc56XxS1XxS1XxQ1XxS1XxS1XxQVbCax2XEbm5SXxNAbh9UXuJGXuK1XxP3X_F6XxQ1XxR2XxS1XxQ1XxS1XxS7X
  xS1XxS1XxS2XxS1XxT1XxS1XxS1XxS1XxS2XxS3bc56XxS1XxS1XxQ1XxS1XxS1XxQVbCax2XEbm5SXxNAbh9UXuJGXuK1Xx
  P3X_R6XxQ1XxR2XxS1XxQ1XxS1XxS7XxS1XxS1XxS2XxS1XxT1XxS1XxS1XxS1XxS2XxS3bc56XxS1XxS1XxQ1XxS1XxS1Xx
  QVbCax2XEbm5SXxNAbh9UXuJGXuK1XxP3X_S6XxQ1XxR2XxS1XxQ1XxS1XxS7XxS1XxS1XxS2XxS1XxT1XxS1XxS1XxS1XxS
  2XxS3bc56XxS1XxS1XxQ1XxS1XxS1XxQVbCaxUXEbmTSZZEAbiJUY_PGY-N1ZYJ3ZZN6ZZG1ZZH2ZZI1ZZG1ZZI1ZZI7ZZI1
  ZZI1ZZI2ZZI1ZZJ1ZZI1ZZI1ZZI1ZZI2ZZI3bcD6ZZI1ZZI1ZZG1ZZI1ZZI1ZZGVbCaxUXEbmTSZZEAbiJUY_PGY-N1ZYJ3Z
  ZO6ZZG1ZZH2ZZI1ZZG1ZZI1ZZI7ZZI1ZZI1ZZI2ZZI1ZZJ1ZZI1ZZI1ZZI1ZZI2ZZI3bcD6ZZI1ZZI1ZZG1ZZI1ZZI1ZZGVb
  CahLXEbmTSZZEAbdUUY_PGYwE1YwF3ay36YwN1ZZT2ZZI1YwN1ZZI1ZZI7ZZI1ZZI1ZZI2ZZI1ZZJ1ZZI1ZZI1ZZI1ZZI2ZZ
  I3a-A6ZZI1ZZI1YwN1ZZI1ZZI1YwNVbCahLXEbmTSZZEAbdUUY_PGYwE1YwF3ay36YwN1ZZV2ZZI1YwN1ZZI1ZZI7ZZI1ZZI
  1ZZI2ZZI1ZZJ1ZZI1ZZI1ZZI1ZZI2ZZI3a-A6ZZI1ZZI1YwN1ZZI1ZZI1YwNVbCaxUXEbmTSZZEAbiJUY_PGY-N1ZYJ3ZaB6
  ZZG1ZZH2ZZI1ZZG1ZZI1ZZI7ZZI1ZZI1ZZI2ZZI1ZZJ1ZZI1ZZI1ZZI1ZZI2ZZI3bcD6ZZI1ZZI1ZZG1ZZI1ZZI1ZZGVbCax
  UXEbmTSZZEAbiJUY_PGY-N1ZYJ3ZaC6ZZG1ZZH2ZZI1ZZG1ZZI1ZZI7ZZI1ZZI1ZZI2ZZI1ZZJ1ZZI1ZZI1ZZI1ZZI2ZZI3b
  cD6ZZI1ZZI1ZZG1ZZI1ZZI1ZZGVbCaxUXEbmTSZZEAbiJUY_PGY-N1ZYJ3ZaH6ZZG1ZZH2ZZI1ZZG1ZZI1ZZI7ZZI1ZZI1ZZ
  I2ZZI1ZZJ1ZZI1ZZI1ZZI1ZZI2ZZI3bcD6ZZI1ZZI1ZZG1ZZI1ZZI1ZZGVbCaxUXEbmTSZZEAbiJUY_PGY-N1ZYJ3ZaI6ZZG
  1ZZH2ZZI1ZZG1ZZI1ZZI7ZZI1ZZI1ZZI2ZZI1ZZJ1ZZI1ZZI1ZZI1ZZI2ZZI3bcD6ZZI1ZZI1ZZG1ZZI1ZZI1ZZGVbCax2XE
  bm5SXxNAbh9UXuJGXuK1XxP3YW66XxQ1XxR2XxS1XxQ1XxS1XxS7XxS1XxS1XxS2XxS1XxT1XxS1XxS1XxS1XxS2XxS3bc56
  XxS1XxS1XxQ1XxS1XxS1XxQVbCax2XEbm5SXxNAbh9UXuJGXuK1XxP3YW76XxQ1XxR2XxS1XxQ1XxS1XxS7XxS1XxS1XxS2X
  xS1XxT1XxS1XxS1XxS1XxS2XxS3bc56XxS1XxS1XxQ1XxS1XxS1XxQVbCaxUXEbmTSZZEAbiJUY_PGY-N1ZYJ3ZaQ6ZZG1ZZ
  H2ZZI1ZZG1ZZI1ZZI7ZZI1ZZI1ZZI2ZZI1ZZJ1ZZI1ZZI1ZZI1ZZI2ZZI3bcD6ZZI1ZZI1ZZG1ZZI1ZZI1ZZGVbCaxUXEbmT
  SZZEAbiJUY_PGY-N1ZYJ3ZaR6ZZG1ZZH2ZZI1ZZG1ZZI1ZZI7ZZI1ZZI1ZZI2ZZI1ZZJ1ZZI1ZZI1ZZI1ZZI2ZZI3bcD6ZZI
  1ZZI1ZZG1ZZI1ZZI1ZZGVbCaxUXEbmTSZZEAbiJUY_PGY-N1ZYJ3ZaT6ZZG1ZZH2ZZI1ZZG1ZZI1ZZI7ZZI1ZZI1ZZI2ZZI1
  ZZJ1ZZI1ZZI1ZZI1ZZI2ZZI3bcD6ZZI1ZZI1ZZG1ZZI1ZZI1ZZGVbCaxUXEbmTSZZEAbiJUY_PGY-N1ZYJ3ZaU6ZZG1ZZH2Z
  ZI1ZZG1ZZI1ZZI7ZZI1ZZI1ZZI2ZZI1ZZJ1ZZI1ZZI1ZZI1ZZI2ZZI3bcD6ZZI1ZZI1ZZG1ZZI1ZZI1ZZGVbCayDXEbn5SXm
  4AbjPUXl5GXl61Xm63XmH6Xm71Xm82Xm91Xm71Xm91Xm97Xm91Xm91Xm92Xm91XmA1Xm91Xm91Xm91Xm92Xm93bcG6Xm91Xm
  91Xm71Xm91Xm91Xm7VbCayDXEbn5SXm4AbjPUXl5GXl61Xm63XmI6Xm71Xm82Xm91Xm71Xm91Xm97Xm91Xm91Xm92Xm91XmA
  1Xm91Xm91Xm91Xm92Xm93bcG6Xm91Xm91Xm71Xm91Xm91Xm7VbCayDXEbn5SXm4AbjPUXl5GXl61Xm63XmM6Xm71Xm82Xm91
  Xm71Xm91Xm97Xm91Xm91Xm92Xm91XmA1Xm91Xm91Xm91Xm92Xm93bcG6Xm91Xm91Xm71Xm91Xm91Xm7VbCahLXEbn5SXm4Ab
  dUUXl5GYwE1YwF3ayF6YwN1XmN2Xm91YwN1Xm91Xm97Xm91Xm91Xm92Xm91XmA1Xm91Xm91Xm91Xm92Xm93a-A6Xm91Xm91Y
  wN1Xm91Xm91YwNVbCahLXEbn5SXm4AbdUUXl5GYwE1YwF3ayF6YwN1XmP2Xm91YwN1Xm91Xm97Xm91Xm91Xm92Xm91XmA1Xm
  91Xm91Xm91Xm92Xm93a-A6Xm91Xm91YwN1Xm91Xm91YwNVbCayDXEbn5SXm4AbjPUXl5GXl61Xm63XnH6Xm71Xm82Xm91Xm7
  1Xm91Xm97Xm91Xm91Xm92Xm91XmA1Xm91Xm91Xm91Xm92Xm93bcG6Xm91Xm91Xm71Xm91Xm91Xm7VbCayDXEbn5SXm4AbjPU
  Xl5GXl61Xm63XnI6Xm71Xm82Xm91Xm71Xm91Xm97Xm91Xm91Xm92Xm91XmA1Xm91Xm91Xm91Xm92Xm93bcG6Xm91Xm91Xm71
  Xm91Xm91Xm7VbCayDXEbn5SXm4AbjPUXl5GXl61Xm63Xo46Xm71Xm82Xm91Xm71Xm91Xm97Xm91Xm91Xm92Xm91XmA1Xm91X
  m91Xm91Xm92Xm93bcG6Xm91Xm91Xm71Xm91Xm91Xm7VbCayDXEbn5SXm4AbjPUXl5GXl61Xm63Xo56Xm71Xm82Xm91Xm71Xm
  91Xm97Xm91Xm91Xm92Xm91XmA1Xm91Xm91Xm91Xm92Xm93bcG6Xm91Xm91Xm71Xm91Xm91Xm7VbCayDXEbn5SXm4AbjPUXl5
  GXl61Xm63XoL6Xm71Xm82Xm91Xm71Xm91Xm97Xm91Xm91Xm92Xm91XmA1Xm91Xm91Xm91Xm92Xm93bcG6Xm91Xm91Xm71Xm9
  1Xm91Xm7VbCayDXEbn5SXm4AbjPUXl5GXl61Xm63XoM6Xm71Xm82Xm91Xm71Xm91Xm97Xm91Xm91Xm92Xm91XmA1Xm91Xm91
  Xm91Xm92Xm93bcG6Xm91Xm91Xm71Xm91Xm91Xm7VbCayDXEbn5SXm4AbjPUXl5GXl61Xm63Xp26Xm71Xm82Xm91Xm71Xm91X
  m97Xm91Xm91Xm92Xm91XmA1Xm91Xm91Xm91Xm92Xm93bcG6Xm91Xm91Xm71Xm91Xm91Xm7VbCayDXEbn5SXm4AbjPUXl5GXl
  61Xm63Xp36Xm71Xm82Xm91Xm71Xm91Xm97Xm91Xm91Xm92Xm91XmA1Xm91Xm91Xm91Xm92Xm93bcG6Xm91Xm91Xm71Xm91Xm
  91Xm7VbCayLXEbnKSZf1AbkUUZaVGZYT1Zc53ZfB6Zf31Zf42Zf51Zf31Zf51Zf57Zf51Zf51Zf52Zf51Zf61Zf51Zf51Zf5
  1Zf52Zf53bcJ6Zf51Zf51Zf31Zf51Zf51Zf3VbCayLXEbnKSZf1AbkUUZaVGZYT1Zc53ZfC6Zf31Zf42Zf51Zf31Zf51Zf57
  Zf51Zf51Zf52Zf51Zf61Zf51Zf51Zf51Zf52Zf53bcJ6Zf51Zf51Zf31Zf51Zf51Zf3VbCayLXEbnKSZf1AbkUUZaVGZYT1Z
  c53ZfG6Zf31Zf42Zf51Zf31Zf51Zf57Zf51Zf51Zf52Zf51Zf61Zf51Zf51Zf51Zf52Zf53bcJ6Zf51Zf51Zf31Zf51Zf51Z
  f3VbCahLXEbnKSZf1AbdUUZaVGYwE1YwF3ayN6YwN1ZfH2Zf51YwN1Zf51Zf57Zf51Zf51Zf52Zf51Zf61Zf51Zf51Zf51Zf
  52Zf53a-A6Zf51Zf51YwN1Zf51Zf51YwNVbCahLXEbnKSZf1AbdUUZaVGYwE1YwF3ayN6YwN1ZfJ2Zf51YwN1Zf51Zf57Zf5
  1Zf51Zf52Zf51Zf61Zf51Zf51Zf51Zf52Zf53a-A6Zf51Zf51YwN1Zf51Zf51YwNVbCayLXEbnKSZf1AbkUUZaVGZYT1Zc53
  Zg06Zf31Zf42Zf51Zf31Zf51Zf57Zf51Zf51Zf52Zf51Zf61Zf51Zf51Zf51Zf52Zf53bcJ6Zf51Zf51Zf31Zf51Zf51Zf3V
  bCayLXEbnKSZf1AbkUUZaVGZYT1Zc53Zg16Zf31Zf42Zf51Zf31Zf51Zf57Zf51Zf51Zf52Zf51Zf61Zf51Zf51Zf51Zf52Z
  f53bcJ6Zf51Zf51Zf31Zf51Zf51Zf3VbCayLXEbnKSZf1AbkUUZaVGZYT1Zc53Zg56Zf31Zf42Zf51Zf31Zf51Zf57Zf51Zf
  51Zf52Zf51Zf61Zf51Zf51Zf51Zf52Zf53bcJ6Zf51Zf51Zf31Zf51Zf51Zf3VbCayLXEbnKSZf1AbkUUZaVGZYT1Zc53Zg6
  6Zf31Zf42Zf51Zf31Zf51Zf57Zf51Zf51Zf52Zf51Zf61Zf51Zf51Zf51Zf52Zf53bcJ6Zf51Zf51Zf31Zf51Zf51Zf3VbCa
  yLXEbnKSZf1AbkUUZaVGZYT1Zc53ZgD6Zf31Zf42Zf51Zf31Zf51Zf57Zf51Zf51Zf52Zf51Zf61Zf51Zf51Zf51Zf52Zf53
  bcJ6Zf51Zf51Zf31Zf51Zf51Zf3VbCayLXEbnKSZf1AbkUUZaVGZYT1Zc53ZgE6Zf31Zf42Zf51Zf31Zf51Zf57Zf51Zf51Z
  f52Zf51Zf61Zf51Zf51Zf51Zf52Zf53bcJ6Zf51Zf51Zf31Zf51Zf51Zf3VbCayLXEbnKSZf1AbkUUZaVGZYT1Zc53ZgG6Zf
  31Zf42Zf51Zf31Zf51Zf57Zf51Zf51Zf52Zf51Zf61Zf51Zf51Zf51Zf52Zf53bcJ6Zf51Zf51Zf31Zf51Zf51Zf3VbCayLX
  EbnKSZf1AbkUUZaVGZYT1Zc53ZgH6Zf31Zf42Zf51Zf31Zf51Zf57Zf51Zf51Zf52Zf51Zf61Zf51Zf51Zf51Zf52Zf53bcJ
  6Zf51Zf51Zf31Zf51Zf51Zf3VbCazHXEbdTSYwLAbm6UZiBGZh31YwF3YwT6YwN1YwO2YwP1YwN1YwP1YwP7YwP1YwP1YwP2
  YwP1YwQ1YwP1YwP1YwP1YwP2YwP3bcN6YwP1YwP1YwN1YwP1YwP1YwNVbCazHXEbdTSYwLAbm6UZiBGZh31YwF3ZtQ6YwN1Y
  wO2YwP1YwN1YwP1YwP7YwP1YwP1YwP2YwP1YwQ1YwP1YwP1YwP1YwP2YwP3bcN6YwP1YwP1YwN1YwP1YwP1YwNVbCazHXEbd
  TSYwLAbm6UZiBGZh31YwF3ZtR6YwN1YwO2YwP1YwN1YwP1YwP7YwP1YwP1YwP2YwP1YwQ1YwP1YwP1YwP1YwP2YwP3bcN6Yw
  P1YwP1YwN1YwP1YwP1YwNVbCahLXEbdTSYwLAbdUUZiBGYwE1YwF3azG6YwN1Yx12YwP1YwN1YwP1YwP7YwP1YwP1YwP2YwP
  1YwQ1YwP1YwP1YwP1YwP2YwP3a-A6YwP1YwP1YwN1YwP1YwP1YwNVbCahLXEbdTSYwLAbdUUZiBGYwE1YwF3azG6YwN1Yx22
  YwP1YwN1YwP1YwP7YwP1YwP1YwP2YwP1YwQ1YwP1YwP1YwP1YwP2YwP3a-A6YwP1YwP1YwN1YwP1YwP1YwNVbCahLXEbdTSY
  wLAbdUUYwDGYwE1YwF3ZsF6YwN1YwO2YwP1YwN1YwP1YwP7YwP1YwP1YwP2YwP1YwQ1YwP1YwP1YwP1YwP2YwP3a-A6YwP1Y
  wP1YwN1YwP1YwP1YwNVbCayDXEbn5SXm4AbjPUXl5GXl61Xm63XlK6Xm71Xm82Xm91Xm71Xm91Xm97Xm91Xm91Xm92Xm91Xm
  A1Xm91Xm91Xm91Xm92Xm93bcG6Xm91Xm91Xm71Xm91Xm91Xm7VbCayDXEbn5SXm4AbjPUXl5GXl61Xm63XlL6Xm71Xm82Xm9
  1Xm71Xm91Xm97Xm91Xm91Xm92Xm91XmA1Xm91Xm91Xm91Xm92Xm93bcG6Xm91Xm91Xm71Xm91Xm91Xm7VbCazHXEbdTSYwLA
  bm6UZiBGZh31YwF3YxB6YwN1YwO2YwP1YwN1YwP1YwP7YwP1YwP1YwP2YwP1YwQ1YwP1YwP1YwP1YwP2YwP3bcN6YwP1YwP1
  YwN1YwP1YwP1YwNVbCazHXEbdTSYwLAbm6UZiBGZh31YwF3ZsN6YwN1YwO2YwP1YwN1YwP1YwP7YwP1YwP1YwP2YwP1YwQ1Y
  wP1YwP1YwP1YwP2YwP3bcN6YwP1YwP1YwN1YwP1YwP1YwNVbCazHXEbdTSYwLAbm6UZiBGZh31YwF3YxJ6YwN1YwO2YwP1Yw
  N1YwP1YwP7YwP1YwP1YwP2YwP1YwQ1YwP1YwP1YwP1YwP2YwP3bcN6YwP1YwP1YwN1YwP1YwP1YwNVbCazHXEbdTSYwLAbm6
  UZiBGZh31YwF3ZsQ6YwN1YwO2YwP1YwN1YwP1YwP7YwP1YwP1YwP2YwP1YwQ1YwP1YwP1YwP1YwP2YwP3bcN6YwP1YwP1YwN
  1YwP1YwP1YwNVbCazHXEbdTSYwLAbm6UZiBGZh31YwF3ZsS6YwN1YwO2YwP1YwN1YwP1YwP7YwP1YwP1YwP2YwP1YwQ1YwP1
  YwP1YwP1YwP2YwP3bcN6YwP1YwP1YwN1YwP1YwP1YwNVbCazHXEbdTSYwLAbm6UZiBGZh31YwF3ZsT6YwN1YwO2YwP1YwN1Y
  wP1YwP7YwP1YwP1YwP2YwP1YwQ1YwP1YwP1YwP1YwP2YwP3bcN6YwP1YwP1YwN1YwP1YwP1YwNVbCazHXEbdTSYwLAbm6UZi
  BGZh31YwF3YxN6YwN1YwO2YwP1YwN1YwP1YwP7YwP1YwP1YwP2YwP1YwQ1YwP1YwP1YwP1YwP2YwP3bcN6YwP1YwP1YwN1Yw
  P1YwP1YwNVbCazHXEbdTSYwLAbm6UZiBGZh31YwF3YxO6YwN1YwO2YwP1YwN1YwP1YwP7YwP1YwP1YwP2YwP1YwQ1YwP1YwP
  1YwP1YwP2YwP3bcN6YwP1YwP1YwN1YwP1YwP1YwNVbCazHXEbdTSYwLAbm6UZiBGZh31YwF3YxP6YwN1YwO2YwP1YwN1YwP1
  YwP7YwP1YwP1YwP2YwP1YwQ1YwP1YwP1YwP1YwP2YwP3bcN6YwP1YwP1YwN1YwP1YwP1YwNVbCazHXEbdTSYwLAbm6UZiBGZ
  h31YwF3Zt16YwN1YwO2YwP1YwN1YwP1YwP7YwP1YwP1YwP2YwP1YwQ1YwP1YwP1YwP1YwP2YwP3bcN6YwP1YwP1YwN1YwP1Y
  wP1YwNVbCaxUXEbmTSZZEAbiJUY_PGY-N1ZYJ3ZaM6ZZG1ZZH2ZZI1ZZG1ZZI1ZZI7ZZI1ZZI1ZZI2ZZI1ZZJ1ZZI1ZZI1ZZ
  I1ZZI2ZZI3bcD6ZZI1ZZI1ZZG1ZZI1ZZI1ZZGVbCaxUXEbmTSZZEAbiJUY_PGY-N1ZYJ3ZaN6ZZG1ZZH2ZZI1ZZG1ZZI1ZZI
  7ZZI1ZZI1ZZI2ZZI1ZZJ1ZZI1ZZI1ZZI1ZZI2ZZI3bcD6ZZI1ZZI1ZZG1ZZI1ZZI1ZZGVbCahLXEbdTSYwLAbdUUYwDGYwE1
  YwF3Zt36YwN1YwO2YwP1YwN1YwP1YwP7YwP1YwP1YwP2YwP1YwQ1YwP1YwP1YwP1YwP2YwP3a-A6YwP1YwP1YwN1YwP1YwP1
  YwNVbCayDXEbn5SXm4AbjPUXl5GXl61Xm63Xp56Xm71Xm82Xm91Xm71Xm91Xm97Xm91Xm91Xm92Xm91XmA1Xm91Xm91Xm91X
  m92Xm93bcG6Xm91Xm91Xm71Xm91Xm91Xm7VbCayDXEbn5SXm4AbjPUXl5GXl61Xm63Xp66Xm71Xm82Xm91Xm71Xm91Xm97Xm
  91Xm91Xm92Xm91XmA1Xm91Xm91Xm91Xm92Xm93bcG6Xm91Xm91Xm71Xm91Xm91Xm7VbCahLXEbdTSYwLAbdUUYwDGYwE1YwF
  3Zt86YwN1YwO2YwP1YwN1YwP1YwP7YwP1YwP1YwP2YwP1YwQ1YwP1YwP1YwP1YwP2YwP3a-A6YwP1YwP1YwN1YwP1YwP1YwN
  VbCahLXEbdTSYwLAbdUUYwDGYwE1YwF3ZtD6YwN1YwO2YwP1YwN1YwP1YwP7YwP1YwP1YwP2YwP1YwQ1YwP1YwP1YwP1YwP2
  YwP3a-A6YwP1YwP1YwN1YwP1YwP1YwNVbCahLXEbdTSYwLAbdUUYwDGYwE1YwF3ZtI6YwN1YwO2YwP1YwN1YwP1YwP7YwP1Y
  wP1YwP2YwP1YwQ1YwP1YwP1YwP1YwP2YwP3a-A6YwP1YwP1YwN1YwP1YwP1YwNVbCaxUXEbmTSZZEAbiJUY_PGY-N1ZYJ3aa
  S6ZZG1ZZH2ZZI1ZZG1ZZI1ZZI7ZZI1ZZI1ZZI2ZZI1ZZJ1ZZI1ZZI1ZZI1ZZI2ZZI3bcD6ZZI1ZZI1ZZG1ZZI1ZZI1ZZGVbC
  azCXEbdTSYwLAboCUYwDGZcD1YwF3YxB6YwN1YwO2YwP1YwN1YwP1YwP7YwP1YwP1YwP2YwP1YwQ1YwP1YwP1YwP1YwP2YwP
  3bcR6YwP1YwP1YwN1YwP1YwP1YwNVbCazCXEbdTSYwLAboCUYwDGZcD1YwF3ZpB6YwN1YwO2YwP1YwN1YwP1YwP7YwP1YwP1
  YwP2YwP1YwQ1YwP1YwP1YwP1YwP2YwP3bcR6YwP1YwP1YwN1YwP1YwP1YwNVbCaxUXEbmTSZZEAbiJUY_PGY-N1ZYJ3ab36Z
  ZG1ZZH2ZZI1ZZG1ZZI1ZZI7ZZI1ZZI1ZZI2ZZI1ZZJ1ZZI1ZZI1ZZI1ZZI2ZZI3bcD6ZZI1ZZI1ZZG1ZZI1ZZI1ZZGVbCazC
  XEbdTSYwLAboCUYwDGZcD1YwF3YxJ6YwN1YwO2YwP1YwN1YwP1YwP7YwP1YwP1YwP2YwP1YwQ1YwP1YwP1YwP1YwP2YwP3bc
  R6YwP1YwP1YwN1YwP1YwP1YwNVbCazCXEbdTSYwLAboCUYwDGZcD1YwF3ZpC6YwN1YwO2YwP1YwN1YwP1YwP7YwP1YwP1YwP
  2YwP1YwQ1YwP1YwP1YwP1YwP2YwP3bcR6YwP1YwP1YwN1YwP1YwP1YwNVbCazCXEbdTSYwLAboCUYwDGZcD1YwF3ZpE6YwN1
  YwO2YwP1YwN1YwP1YwP7YwP1YwP1YwP2YwP1YwQ1YwP1YwP1YwP1YwP2YwP3bcR6YwP1YwP1YwN1YwP1YwP1YwNVbCazCXEb
  dTSYwLAboCUYwDGZcD1YwF3ZpF6YwN1YwO2YwP1YwN1YwP1YwP7YwP1YwP1YwP2YwP1YwQ1YwP1YwP1YwP1YwP2YwP3bcR6Y
  wP1YwP1YwN1YwP1YwP1YwNVbCazCXEbdTSYwLAboCUYwDGZcD1YwF3YxN6YwN1YwO2YwP1YwN1YwP1YwP7YwP1YwP1YwP2Yw
  P1YwQ1YwP1YwP1YwP1YwP2YwP3bcR6YwP1YwP1YwN1YwP1YwP1YwNVbCazCXEbdTSYwLAboCUYwDGZcD1YwF3YxO6YwN1YwO
  2YwP1YwN1YwP1YwP7YwP1YwP1YwP2YwP1YwQ1YwP1YwP1YwP1YwP2YwP3bcR6YwP1YwP1YwN1YwP1YwP1YwNVbCahLXEbdTS
  YwLAbdUUYwDGYwE1YwF3af86YwN1YwO2YwP1YwN1YwP1YwP7YwP1YwP1YwP2YwP1YwQ1YwP1YwP1YwP1YwP2YwP3a-A6YwP1
  YwP1YwN1YwP1YwP1YwNVbCaxUXEbmTSZZEAbiJUY_PGY-N1ZYJ3ab96ZZG1ZZH2ZZI1ZZG1ZZI1ZZI7ZZI1ZZI1ZZI2ZZI1Z
  ZJ1ZZI1ZZI1ZZI1ZZI2ZZI3bcD6ZZI1ZZI1ZZG1ZZI1ZZI1ZZGVbCazCXEbdTSYwLAboCUYwDGZcD1YwF3YxP6YwN1YwO2Yw
  P1YwN1YwP1YwP7YwP1YwP1YwP2YwP1YwQ1YwP1YwP1YwP1YwP2YwP3bcR6YwP1YwP1YwN1YwP1YwP1YwNVbCazCXEbdTSYwL
  AboCUYwDGZcD1YwF3ZpG6YwN1YwO2YwP1YwN1YwP1YwP7YwP1YwP1YwP2YwP1YwQ1YwP1YwP1YwP1YwP2YwP3bcR6YwP1YwP
  1YwN1YwP1YwP1YwNVbCahLXEbdTSYwLAbdUUYwDGYwE1YwF3afG6YwN1YwO2YwP1YwN1YwP1YwP7YwP1YwP1YwP2YwP1YwQ1
  YwP1YwP1YwP1YwP2YwP3a-A6YwP1YwP1YwN1YwP1YwP1YwNVbCahLXEbdTSYwLAbdUUYwDGYwE1YwF3afO6YwN1YwO2YwP1Y
  wN1YwP1YwP7YwP1YwP1YwP2YwP1YwQ1YwP1YwP1YwP1YwP2YwP3a-A6YwP1YwP1YwN1YwP1YwP1YwNVbCahLXEbdTSYwLAbd
  UUYwDGYwE1YwF3ag06YwN1YwO2YwP1YwN1YwP1YwP7YwP1YwP1YwP2YwP1YwQ1YwP1YwP1YwP1YwP2YwP3a-A6YwP1YwP1Yw
  N1YwP1YwP1YwNVbCazCXEbdTSYwLAboCUYwDGZcD1YwF3YwT6YwN1YwO2YwP1YwN1YwP1YwP7YwP1YwP1YwP2YwP1YwQ1YwP
  1YwP1YwP1YwP2YwP3bcR6YwP1YwP1YwN1YwP1YwP1YwNVbCazCXEbdTSYwLAboCUYwDGZcD1YwF3ZpK6YwN1YwO2YwP1YwN1
  YwP1YwP7YwP1YwP1YwP2YwP1YwQ1YwP1YwP1YwP1YwP2YwP3bcR6YwP1YwP1YwN1YwP1YwP1YwNVbCahLXEbdTSYwLAbdUUY
  wDGYwE1YwF3azK6YwN1Yx12YwP1YwN1YwP1YwP7YwP1YwP1YwP2YwP1YwQ1YwP1YwP1YwP1YwP2YwP3a-A6YwP1YwP1YwN1Y
  wP1YwP1YwNVbCahLXEbdTSYwLAbdUUYwDGYwE1YwF3azK6YwN1Yx22YwP1YwN1YwP1YwP7YwP1YwP1YwP2YwP1YwQ1YwP1Yw
  P1YwP1YwP2YwP3a-A6YwP1YwP1YwN1YwP1YwP1YwNVbCahLXEbdTSYwLAbdUUYwDGYwE1YwF3agD6YwN1YwO2YwP1YwN1YwP
  1YwP7YwP1YwP1YwP2YwP1YwQ1YwP1YwP1YwP1YwP2YwP3a-A6YwP1YwP1YwN1YwP1YwP1YwNVbCazCXEbdTSYwLAboCUYwDG
  ZcD1YwF3agN6YwN1YwO2YwP1YwN1YwP1YwP7YwP1YwP1YwP2YwP1YwQ1YwP1YwP1YwP1YwP2YwP3bcR6YwP1YwP1YwN1YwP1
  YwP1YwNVbCahLXEbdTSYwLAbdUUYwDGYwE1YwF3agO6YwN1YwO2YwP1YwN1YwP1YwP7YwP1YwP1YwP2YwP1YwQ1YwP1YwP1Y
  wP1YwP2YwP3a-A6YwP1YwP1YwN1YwP1YwP1YwNVbCazCXEbdTSYwLAboCUYwDGZcD1YwF3agP6YwN1YwO2YwP1YwN1YwP1Yw
  P7YwP1YwP1YwP2YwP1YwQ1YwP1YwP1YwP1YwP2YwP3bcR6YwP1YwP1YwN1YwP1YwP1YwNVbCazCXEbdTSYwLAboCUYwDGZcD
  1YwF3agQ6YwN1YwO2YwP1YwN1YwP1YwP7YwP1YwP1YwP2YwP1YwQ1YwP1YwP1YwP1YwP2YwP3bcR6YwP1YwP1YwN1YwP1YwP
  1YwNVbCazCXEbdTSYwLAboCUYwDGZcD1YwF3agR6YwN1YwO2YwP1YwN1YwP1YwP7YwP1YwP1YwP2YwP1YwQ1YwP1YwP1YwP1
  YwP2YwP3bcR6YwP1YwP1YwN1YwP1YwP1YwNVbCazCXEbdTSYwLAboCUYwDGZcD1YwF3agU6YwN1YwO2YwP1YwN1YwP1YwP7Y
  wP1YwP1YwP2YwP1YwQ1YwP1YwP1YwP1YwP2YwP3bcR6YwP1YwP1YwN1YwP1YwP1YwNVbCazCXEbdTSYwLAboCUYwDGZcD1Yw
  F3agV6YwN1YwO2YwP1YwN1YwP1YwP7YwP1YwP1YwP2YwP1YwQ1YwP1YwP1YwP1YwP2YwP3bcR6YwP1YwP1YwN1YwP1YwP1Yw
  NRb6ZqAXFbeF2ah82beFAZuVCbeF1awQ6Y_86XeI4Zc23ah81awQ1awQ1ah81Y_81Y_84ZqAPYrE1Ys5XBZqA1ZqA1baV4Zq
  A1ZqA8adF5awR1ahBRb6Zt4XFbeF2ah82beFAZuVCbeF1awQ6Y_86XeI4Zc23ah81awQ1awQ1ah81Y_81Y_84Zt4PYrE1Ys5
  XBZt41Zt41baV4Zt41Zt48adF5awR1ahBRb6ZqAXFbeF2ah82beFAZuVCbeF1ah96Y_86XeI4Zc23ah81ah91ah91ah81Y_8
  1Y_84ZqAPYrE1Ys5XBZqA1ZqA1baV4ZqA1ZqA8adF5ahA1ahB5cQc5Sc6X6cJY9ai31ai46bOacTTZiL4ZiLMZiLZMai31ai
  45cQu3Sv1X6vJY9ai31ai45cQc5Sc6X6cJY9ax51ai46bOacTTZiL4ZiLMZiLZMax51ai45cQu3Sv1X6vJY9ax51ai43cQXm
  1SXm2X6Xr7Pb6ZqOXFbeF2a-O2beFAZuVCbeF1a-P6Y_86XeI4Zc23a-O1a-P1a-P1a-O1Y_81Y_84ZqOPYrE1Ys5XBZqO1Z
  qO1baV4ZqO1ZqO8adFPb6Zt5XFbeF2a-O2beFAZuVCbeF1a-P6Y_86XeI4Zc23a-O1a-P1a-P1a-O1Y_81Y_84Zt5PYrE1Ys
  5XBZt51Zt51baV4Zt51Zt58adF3cQc5Sc6X6cJ4bOacTTZiL4ZiLMZiL3cQu3Sv1X6vJ3cQXlNSXlOX6Xs24bOacTTZd04Zd
  0MZd02dRY_SYKZa34bOaeSTZiL4ZiLMZiL3cQZhNSZo3X6aY92dRYvSYKYx42dRXdMYKa_C2fDbWIX2Yx01gFZZR1gFYx02d
  SXeIZ4XcN3cLajT4ajTMajTGb6ZqAXTZuVJY_36XeI4Zc27Y_31Y_34ZqAPYrB1YrVXBZqA1ZqA1baV4ZqA1ZqA8adFGb6Zs
  HXTZuVJY_36XeI4Zc27Y_31Y_34ZsHPYrB1YrVXBZsH1ZsH1baV4ZsH1ZsH8adFGb6Zt4XTZuVJY_36XeI4Zc27Y_31Y_34Z
  t4PYrB1YrVXBZt41Zt41baV4Zt41Zt48adFGb6Zt9XTZuVJY_36XeI4Zc27Y_31Y_34Zt9PYrB1YrVXBZt91Zt91baV4Zt91
  Zt98adFGb6ZtEXTZuVJY_36XeI4Zc27Y_31Y_34ZtEPYrB1YrVXBZtE1ZtE1baV4ZtE1ZtE8adFGb6ZtJXTZuVJY_36XeI4Z
  c27Y_31Y_34ZtJPYrB1YrVXBZtJ1ZtJ1baV4ZtJ1ZtJ8adFGb6ZwHXTZuVJY_36XeI4Zc27Y_31Y_34ZwHPYrB1YrVXBZwH1
  ZwH1baV4ZwH1ZwH8adFGb6ZqOXTZuVJY_36XeI4Zc27Y_31Y_34ZqOPYrB1YrVXBZqO1ZqO1baV4ZqO1ZqO8adFGb6ZsKXTZ
  uVJY_36XeI4Zc27Y_31Y_34ZsKPYrB1YrVXBZsK1ZsK1baV4ZsK1ZsK8adFGb6Zt5XTZuVJY_36XeI4Zc27Y_31Y_34Zt5PY
  rB1YrVXBZt51Zt51baV4Zt51Zt58adFGb6ZtAXTZuVJY_36XeI4Zc27Y_31Y_34ZtAPYrB1YrVXBZtA1ZtA1baV4ZtA1ZtA8
  adFGb6ZtFXTZuVJY_36XeI4Zc27Y_31Y_34ZtFPYrB1YrVXBZtF1ZtF1baV4ZtF1ZtF8adFGb6ZtKXTZuVJY_36XeI4Zc27Y
  _31Y_34ZtKPYrB1YrVXBZtK1ZtK1baV4ZtK1ZtK8adFEdMYzQ6YsF5Xk03YoD3YzQ1YzQ1aiK3adD1aiKOYpV1YrUXIaiK8Y
  fJDXk0EdMYzQ6YsF5Xk13YoD3YzQ1YzQ1aiK3adD1aiKOYpV1YrUXIaiK8YfJDXk1Lb7bc31aeP3aY6BaY51aY5X5aY53aY5
  2aY5RXeIIaY5AaY51aY51aY51aY72aY52aY52aY53aY5XSacD5ax51ai4Lb7bc31aeP3aY6BaY51aY5X5aY53aY52aY5RXeI
  IaY5AaY51aY51aY51aY72aY52aY52aY53aY5XSacD5ai31ai4EdMYzQ6YsF5Xk53YoD3YzQ1YzQ1aiK3adD1aiKOYpV1YrUX
  IaiK8YfJDXk5EdMYzQ6YsF5Xk83YoD3YzQ1YzQ1aiK3adD1aiKOYpV1YrUXIaiK8YfJDXk8EdMYzQ6YsF5XkB3YoD3YzQ1Yz
  Q1aiK3adD1aiKOYpV1YrUXIaiK8YfJDXkBEdMYzQ6YsF5XkE3YoD3YzQ1YzQ1aiK3adD1aiKOYpV1YrUXIaiK8YfJDXkEGcL
  beF2ah82beFMbeF1ah96ZiJDah81ah91ah91ah81ZiJ1ZiJTYr81YrRXVahA1ahB4d5ax4IXpH4XpQYKXlIGcLbeF2ah82be
  FMbeF1awQ6ZiJDah81awQ1awQ1ah81ZiJ1ZiJTYr81YrRXVawR1ahBJb7bc31aeP3aY6BaY51aY5X5aY53aY52aY5RXeIIaY
  5AaY51aY51aY51aY72aY52aY52aY53aY5XSacD2dRXmUYKXmV2dRXn0YKXn12dRXn2YKXn31gFXmLEcLbeF2a-O2beFMbeF1
  a-P6ZiJDa-O1a-P1a-P1a-O1ZiJ1ZiJTYr81YrR2d5ax4IXpH1gFXmR1dRXmS1dNXpH1dRXpT1dRXqD1bPXs31bPXr84d5ah
  PIYY04YYJYKXwN6dMY_CHY_C1Y_CUYsBXVax51ai46dMY_CHY_C1Y_CUYsBXVai31ai45bPYpIXTYzUHYzU1YzUUYs15dMZd
  3HZd31Zd3TYqC1YsS5dMZd7HZd71Zd7TYqH1Yt95dMZsJHZsJ1ZsJYTax51ai45dMY_CHY_C1Y_CYTax51ai42dRXzFYKXzG
  2dRXzHYKXzI2dRXzJYKXzK5dMZsJHZsJ1ZsJYTai31ai45dMY_CHY_C1Y_CYTai31ai41gFXyG3d5ax4MXpFYKXlH2d5ahPI
  YY03d5ahPMYXUYKXwH5d5ax4MXpFXIbeIX2XlHQawH4dMZd6HZd61Zd6UYt34dMZdKHZdK1ZdKUYtQ4dMY_CHY_C1Y_CUYsB
  1gFXyM1dRXyN5d5ax4MXpFXIbhCX2XlHQawH5d5ax4MXpFXIbiMX2XlHQawH5d5ax4MXpFXIbjSX2XlHQawH4d5ahPMYXUYK
  XwHQad21dNYY0AcLbeF2awP2beFMbeF7beGDawP3awP1beG1beGYUawS1dRYYS3dMYzUHYzU1YzU1dRYZO4dMY_7HY_71Y_7
  UYs44dMY-3HY-31Y-3UYs63dMY-3HY-31Y-34dMY-5HY-51Y-5UYs83dMY-6HY-61Y-64dMY_BHY_B1Y_BUYsA4dMY-CHY-C
  1Y-CUYsC3dMY-DHY-D1Y-D3dMZsJHZsJ1ZsJ3dMY_CHY_C1Y_C4dMY_IHY_I1Y_IUYsDAcLbeF2ah82beFMbeF7beGDah83a
  h81beG1beGYUahB4d5ax4MXpFYKXlHOaiG9cLbeF2a-O2beFMbeF7beGDa-O3a-O1beG1beG4d5ax4MXpFYKXlHQZu33dMZq
  LHZqL1ZqL3d5ax4MXpFYKYkP3dMZqNHZqN1ZqN3dMY_7HY_71Y_74d5ax4MXpFYKXlHOajM9dGaxR6ZjCEaxR1axR2ZjC1Zj
  CTYr81YrRXVaxS3dMZr0HZr01Zr03dMZtOHZtO1ZtO3dMZr4HZr41Zr43dMY_BHY_B1Y_B4d5ax4MXpFYKXlHQawH3dMZr9H
  Zr91Zr93dMY-9HY-91Y-93dMY-AHY-A1Y-A3dMY-FHY-F1Y-F3dMZrBHZrB1ZrB3dMY_HHY_H1Y_H3dMY_IHY_I1Y_I3dMZr
  GHZrG1ZrG3dMY-GHY-G1Y-G3dMY-HHY-H1Y-H3dMY-IHY-I1Y-I3dMY-KHY-K1Y-K3dMZrIHZrI1ZrI3dMY_JHY_J1Y_J3dM
  Y_KHY_K1Y_K3dMZrMHZrM1ZrM3dMY-LHY-L1Y-L3dMZrNHZrN1ZrN3dMY_LHY_L1Y_L3dMZtTHZtT1ZtT3dMZtVHZtV1ZtV3
  dMZu0HZu01Zu03dMZu1HZu11Zu14d5ax4MXpFYKXlHOaxA4d5ax4MXpFYKXlHOaxO4d5ax4MXpFYKXlHOayC4d5ax4MXpFYK
  XlHOayK4d5ax4MXpFYKXlHOaz04d5ax4MXpFYKXlHOaz44d5ax4MXpFYKXlHOaz73dMZsOHZsO1ZsO3dMZsUHZsU1ZsU3dMZ
  sVHZsV1ZsV3dMZt0HZt01Zt04dMZq4HZq41Zq4UYrT8dGa-P6ZjCEa-P1a-P2ZjC1ZjCTYr81YrR8dMY-06YsF8YoF3Y-01Y
  -0TYq41Ys3XQYqS3dMZd6HZd61Zd63dMZr1HZr11Zr15dMZq4HZq41Zq4UYrTXVaxV3dMZdBHZdB1ZdB3dMZrAHZrA1ZrA3d
  MZq4HZq41Zq44dMZq4HZq41Zq4YTaxV4dMZdBHZdB1ZdBUYtF4dMZdDHZdD1ZdDUYtI3dMZdEHZdE1ZdE4dMZdSHZdS1ZdSU
  YtU3dMZdTHZdT1ZdT4dMZe3HZe31Ze3UYu03dMZe4HZe41Ze43d5ahPMYXUYKYpR3dMZdJHZdJ1ZdJ3dMZdNHZdN1ZdN3dMZ
  dOHZdO1ZdO3dMZdRHZdR1ZdR3dMZe1HZe11Ze13dMZe8HZe81Ze83dMZe9HZe91Ze93dMZeAHZeA1ZeA3dMZeBHZeB1ZeB3d
  MZeEHZeE1ZeE3dMZeFHZeF1ZeF3dMZeGHZeG1ZeG3dMZeJHZeJ1ZeJ3dMZeKHZeK1ZeK3dMZeLHZeL1ZeL3dMZeMHZeM1ZeM
  2dRYsHYKbZH4dMZqEHZqE1ZqEUYs01h5axV3dMZqEHZqE1ZqE4dMYzUHYzU1YzUUYs13dMZqTHZqT1ZqT4dMY-7HY-71Y-7U
  Ys93dMZr6HZr61Zr63dMZrDHZrD1ZrD4dMZdHHZdH1ZdHUYtM3dMZrHHZrH1ZrH3dMZrJHZrJ1ZrJ3dMZrQHZrQ1ZrQ3dMZr
  RHZrR1ZrR2dSYsFZ4YqS3dMZt2HZt21Zt23dMZu2HZu21Zu2HbBw8BvB1vBX5vB3vB2vBRXeIIvBAvB1vB1vB1vD2vB2vB2v
  B3vBXSZuA4dMYzVHYzV1YzVUYs24dMZvTHZvT1ZvTRajL4dMY-4HY-41Y-4UYs74dMaeHHaeH1aeHRbY94dMab0Hab01ab0R
  axNHbBaYNBaY51aY5X5aY53aY52aY5RXeIIaY5AaY51aY51aY51aY72aY52aY52aY53aY5XSacD3dMY-8HY-81Y-83dMY-BH
  Y-B1Y-B3dMY-EHY-E1Y-E3dMY-JHY-J1Y-J3dMZd3HZd31Zd33dMZd8HZd81Zd83dMZd9HZd91Zd93dMZdCHZdC1ZdC3dMZd
  FHZdF1ZdF3dMZdGHZdG1ZdG3dMZdIHZdI1ZdI3dMZdLHZdL1ZdL3dMZdMHZdM1ZdM3dMZdPHZdP1ZdP3dMZdQHZdQ1ZdQ3dM
  ZdUHZdU1ZdU3dMZdVHZdV1ZdV3dMZe0HZe01Ze03dMZe2HZe21Ze23dMZe5HZe51Ze53dMZe6HZe61Ze63dMZe7HZe71Ze73
  dMZeCHZeC1ZeC3dMZeDHZeD1ZeD3dMZeHHZeH1ZeH3dMZeIHZeI1ZeI1g8bgC2dRYvTYKYx52dRYvUYKYx66bEa-02bdD1bd
  DY5acOKa-1AacP2dRY_TYKZa42dRY_UYKZa51gFYx31dRYwI2dMbgDYObgD2dMbgFYObgG2dMbgIYObgJ2dMbgLYObgM2dRZ
  b3YKZfN2dRZb4YKZfO2dRZb5YKZfP2dMbi4YObi42dMbi6YObi72dMbi9YObiA2dMbiCYObiD2dMbjAYObjA2dMbjCYObjD2
  dMbjFYObjG2dMbjIYObjJ2dMbkGYObkG2dMbkIYObkJ2dMbkLYObkM2dMbkOYObkP2dMblKYOblK2dMblMYOblN2dMblPYOb
  lQ2dMblSYOblT6bEa-J2bdD1bdDY5ad4Ka-1Aad55d3ZqMBajCIZeNXDZvGX6bYV2fVYxDFbfI5d3ZqVBak0IZeNXDZwAX6b
  YV5d3ak1Bak0IZc2XDZwAX6baV5d3bZ8Bak4IZpRXDZwCX6azT4e0ZjHYJbW9Iax51ai45d3Zr8BakCIZeNXDZwRX6bYV5d3
  akFBakCIZc2XDZwRX6baV5d3bZNBakIIZpRXDZwUX6azT5d3bZNBakJIZpRXDZwVX6azT5d3bZNBakQIZpRXDZx5X6azT5d3
  bZNBakRIZpRXDZx6X6azT5d3ZrFBal2IZeNXDZxJX6bYV5d3ba9Bal5IZpRXDZxMX6azT5d3ba9Bal9IZpRXDZxPX6azT5d3
  ba9Bam0IZpRXDZyAX6azT5d3ba9Bam1IZpRXDZyBX6azT5d3ba9Bam8IZpRXDZyHX6azT5d3ba9Bam9IZpRXDZyIX6azT5d3
  ZrLBamGIZeNXDZz1X6bYV5d3baKBamOIZpRXDZz5X6azT5d3baKBao6IZpRXDZ-2X6azT5d3baKBaoAIZpRXDZ-5X6azT5d3
  baKBap0IZpRXDZ-LX6azT5d3baPBarEIZpRXDaW3X6azT4e0ZjHYJbW9Iai31ai41dRZYM2fVZeQFbhO2fVZaEFbiU2fVYW5
  Fbk42fVXp4Fbl82fVYxDFbmF2fVYxDFboN3gFYx06a_81adI4d3ZvJTZc2XDZvKX6baV4d3ZwETZc2XDZwGX6baV4d3ZnHTZ
  c2XDZvKX6baV4d3Zx9TZc2XDZxBX6baV4d3ZnITZc2XDZwGX6baV4d3ZyNTZc2XDZyPX6baV4d3ZnLTZc2XDZxBX6baV4d3Z
  -STZc2XDZ-UX6baV4d3ZnNTZc2XDZyPX6baV4d3ZnPTZc2XDZ-UX6baV1gFZfF1gFZa05d3Zr2Bak2IZeNXDZwBX6bYV4d3Z
  wITZc2XDZwJX6baV5d3Zr7BakDIZeNXDZwSX6bYV5d3akGBakDIZc2XDZwSX6baV5d3bZOBakOIZpRXDZx4X6azT4d3Zx7TZ
  c2XDZxCX6baV2e0ZjHYJbW94d3ZnJTZc2XDZwJX6baV5d3ZrEBakVIZeNXDZxIX6bYV5d3al3BakVIZc2XDZxIX6baV5d3ba
  8Bal7IZpRXDZxOX6azT5d3ba8BalCIZpRXDZxSX6azT5d3ba8Bam6IZpRXDZyGX6azT5d3ba8BamBIZpRXDZyKX6azT4d3Zy
  LTZc2XDZyOX6baV4d3ZnKTZc2XDZxCX6baV5d3ZrKBamEIZeNXDZz0X6bYV5d3baJBamKIZpRXDZz4X6azT5d3baJBamQIZp
  RXDZz7X6azT5d3baJBao8IZpRXDZ-4X6azT5d3baJBaoDIZpRXDZ-8X6azT5d3baJBap2IZpRXDZ-NX6azT5d3baJBap5IZp
  RXDZ-PX6azT4d3Z-QTZc2XDZ-TX6baV4d3ZnMTZc2XDZyOX6baV5d3ZrOBapAIZeNXDZ_3X6bYV5d3baOBapHIZpRXDZ_6X6
  azT5d3baOBarAIZpRXDaW2X6azT5d3baOBarGIZpRXDaW5X6azT5d3baOBasLIZpRXDaWQX6azT4d3aWRTZc2XDaWUX6baV4
  d3ZnOTZc2XDZ-TX6baV5d3baQBauAIZpRXDaXHX6azT4d3ZnQTZc2XDaWUX6baV1dRZc84bAbeC8ai1Y4beCKa-K1gFZfK5c
  Ta-8X2YXSMahJ2bdIXSZiO3b9ahS1ahTYCahT5cTa_HX2YZ1MahJ2bdIXSZjA3bAbf6YCbf6Ka_O5cTbW4X2YkMMahJ2bdIX
  SZjF4bAbeC8bX2Y4beCKa-K2dEZw4XVZuP2dEai9XVZuP3fDZs34Zs3FZs33fDZs64Zs6FZs65cTbZ0X2XpDMahJ2bdIXSZo
  75cTbZJX2Xq1MahJ2bdIXSZoD5cTa_1X2cMMahJ2bdIXSZj75cTa_LX2uHMahJ2bdIXSZjB5cTa_VX2YZ6MahJ2bdIXSZjD5
  cTbWNX2wVMahJ2bdIXSZjJ5cTbWOX2cSMahJ2bdIXSZjL3b9bWQ1ahTYCahT5cTbWUX2uNMahJ2bdIXSZjM5cTbXBX2Ya7Ma
  hJ2bdIXSZjP5cTbXEX2YkSMahJ2bdIXSZjQ2dEak0XVZwA5cTbXOX2y1MahJ2bdIXSZjV2dEakCXVZwR2dEakKXVZx02dEak
  LXVZx12dEakMXVZx22dEal2XVZxJ2dEalAXVZxQ2dEalEXVZxT2dEalFXVZxU2dEalGXVZxV2dEalHXVZy02dEalLXVZy32d
  EalMXVZy42dEalNXVZy52dEam2XVZyC2dEam3XVZyD2dEam4XVZyE2dEamGXVZz12dEan1XVZzA2dEan5XVZzD2dEan6XVZz
  E2dEanAXVZzH2dEanJXVZzM2dEanKXVZzN2dEanLXVZzO2dEanMXVZzP2dEanQXVZzS2dEanRXVZzT2dEaoBXVZ-62dEaoFX
  VZ-92dEaoGXVZ-A2dEaoHXVZ-B2dEaoIXVZ-C2dEaoMXVZ-F2dEaoNXVZ-G2dEapCXVZ_42dEapSXVZ_92dEaqCXVZ_G2dEa
  qGXVZ_J2dEaqHXVZ_K2dEaqLXVZ_N2dEaqUXVZ_S2dEarNXVaW82dEarRXVaWB2dEarSXVaWC2dEas0XVaWF2dEas9XVaWK2
  dEatGXVaX72dEauLXVaXK3fDaYA4aYAFaYA3fDaYM4aYMFaYM5cTbZAX2YbQMahJ2bdIXSZoB5cTbZMX2aYSMahJ2bdIXSZo
  E5cTbZPX2Xq4MahJ2bdIXSZoF5cTba3X2aZ4MahJ2bdIXSZoH5cTba4X2Yc1MahJ2bdIXSZoJ5cTba7X2aZEMahJ2bdIXSZo
  K5cTbaDX2XqMMahJ2bdIXSZoL5cTbaHX2aZSMahJ2bdIXSZoM5cTbb0X2YcDMahJ2bdIXSZoN5cTbbBX2YcJMahJ2bdIXSZo
  Q5bCadGaLYuJ1YuK1YvQ1YwR4dOZsGY2Zv1XIZsG7Zv14fAZwP1ZwP1ZwP1ZwP4fAZxK1ZxK1ZxK1ZxK4fAZyS1ZyS1ZyS1Z
  yS4fAZyT1ZyT1ZyT1ZyT4fAZyU1ZyU1ZyU1ZyU4fAZ_11Z_11Z_11Z_14fAZ_21Z_21Z_21Z_24fAaWV1aWV1aWV1aWV4fAa
  X01aX01aX01aX01bPaaH5bCaf3aLXrT1XrU1Xy61Xy74dOZq1Y2Zv1XIZq17Zv15bCafDaLYwA1YwB1Y_R1ZZL5bCafLaLXk
  R1XkS1XmE1XmF5bCafTaLYyU1YyV1Zb11Zf94dOZsGY2abHXIZsG7abH5bCag5aLZZ51ZZ61YvQ1YwR4bOacSTZiL4ZiLMZi
  L3d3a-9TZpRYJazT3d5a-EMYXUYKa-F3d3a-QTZpRYJazT2dEa-TXVadC4cTa_2X2YYHMahJ2bdI3d3a_3TZpRYJazT3f0ai
  PXGw63Zv32dRYYVYKa_D4bOaj9TZiL4ZiLMZiL4bOacSTZcV4ZcVMZcV2gLa_81adI4cTbW6X2cQMahJ2bdI2gLbWE1adV3d
  5bZ5MXlEYKbZ64cTbWPX2Ya3MahJ2bdI4cTbWSX2uLMahJ2bdI4cTbX8X2Ya5MahJ2bdI4cTbXFX2YkUMahJ2bdI2dEak2XV
  ZwB1fDZwF3d5bZ5MXlFYKZXN4cTbXLX2xQMahJ2bdI2gFawMX2aeB4cTbXNX2d2MahJ2bdI4cTbXRX2uSMahJ2bdI4cTbY4X
  2YaVMahJ2bdI4cTbY6X2Yl4MahJ2bdI2dEakDXVZwS2dEakNXVZx31fDZxA1fDZxD4cTbYAX2yHMahJ2bdI2dEakVXVZxI2d
  Eal6XVZxN2dEalBXVZxR2dEalIXVZy12dEalJXVZy22dEalOXVZy62dEalPXVZy72dEalRXVZy82dEalSXVZy92dEam5XVZy
  F2dEamAXVZyJ1fDZyQ2dEamEXVZz02dEamJXVZz32dEamPXVZz62dEamSXVZz82dEamTXVZz92dEan2XVZzB2dEan3XVZzC2
  dEan7XVZzF2dEan8XVZzG2dEanBXVZzI2dEanCXVZzJ2dEanEXVZzK2dEanFXVZzL2dEanNXVZzQ2dEanOXVZzR2dEanSXVZ
  zU2dEanTXVZzV2dEanVXVZ-02dEao0XVZ-12dEao7XVZ-32dEaoCXVZ-72dEaoJXVZ-D2dEaoKXVZ-E2dEaoOXVZ-H2dEaoP
  XVZ-I2dEaoRXVZ-J2dEaoSXVZ-K2dEap1XVZ-M2dEap4XVZ-O2dEapAXVZ_32dEapGXVZ_52dEapNXVZ_72dEapOXVZ_82dE
  apTXVZ_A2dEapUXVZ_B2dEaq0XVZ_C2dEaq1XVZ_D2dEaq5XVZ_E2dEaq6XVZ_F2dEaqDXVZ_H2dEaqEXVZ_I2dEaqIXVZ_L
  2dEaqJXVZ_M2dEaqMXVZ_O2dEaqNXVZ_P2dEaqPXVZ_Q2dEaqQXVZ_R2dEaqVXVZ_T2dEar0XVZ_U2dEar2XVZ_V2dEar3XV
  aW02dEar9XVaW12dEarFXVaW42dEarIXVaW62dEarJXVaW72dEarOXVaW92dEarPXVaWA2dEarTXVaWD2dEarUXVaWE2dEas
  1XVaWG2dEas2XVaWH2dEas4XVaWI2dEas5XVaWJ2dEasAXVaWL2dEasBXVaWM2dEasDXVaWN2dEasEXVaWO2dEasKXVaWP2d
  EasSXVaX12dEat2XVaX32dEat3XVaX42dEatBXVaX52dEatCXVaX62dEatHXVaX82dEatIXVaX92dEatKXVaXA2dEatLXVaX
  B2dEatPXVaXC2dEatQXVaXD2dEau0XVaXE2dEau1XVaXF2dEau9XVaXG2dEauGXVaXI2dEauHXVaXJ2dEauMXVaXL2dEauNX
  VaXM2dEauPXVaXN2dEauQXVaXO2dEauUXVaXP2dEauVXVaXQ2dEav5XVaXR2dEav6XVaXS2dEavJXVaY02dEavKXVaY12dEa
  w2XVaY22dEaw3XVaY31bPa_U1bPbX51bPbX71bPbXV1bPbY11bPbYB1bPbYD1bPbYG1bPbYI1bPbYK1bPbYM1bPbYO1bPbYQ
  1bPbYR3d5bZ5MXpFYKbZ64cTbZBX2XpOMahJ2bdI3f0axGXGaYI3aaQ2dRXpVYKbZI4cTbZRX2YbUMahJ2bdI3d5a-EMXzOY
  Ka-F4cTba5X2XqIMahJ2bdI4cTba6X2aZDMahJ2bdI4cTbaAX2XqKMahJ2bdI3d5a-EMX-PYKZhV4cTbaFX2aZMMahJ2bdI4
  cTbaGX2Yc7MahJ2bdI4cTbaIX2aZVMahJ2bdI4cTbaMX2XqTMahJ2bdI4cTbaNX2aa9MahJ2bdI4cTbb4X2YcHMahJ2bdI3d
  5bZ5MYgLYKbZ63d5bZ5MYgMYKZXN4cTbbDX2YcOMahJ2bdI3d5bZ5MYd9YKbZ63d5bZ5MYdAYKZXN3d5a-EMYgPYKa-F3d5a
  -EMYgQYKZhV3d5bZ5MYlOYKbZ63d5bZ5MYlPYKZXN3d5bZ5MYWBYKbZ63d5bZ5MYWCYKZZC4bOaeRTZiL4ZiLMZiL3d3bZ1T
  ZpRYJazT3d3bZCTZpRYJazT2dOZq1ZKZq13fDa-G4a-GFa-G3cQu3Sv1X6yV3d3a_4TZpRYJazT1hGaiN2dOZqCZKZqC3fDa
  _G4a_GFa_G3d3a_RTZpRYJazT3cCZqH1ZqHaNZqH2dEbW2XVadS1hGajD3d3bW7TZpRYJazT1hKZqP3d3bX6TZpRYJazT3cC
  ZqU1ZqUaNZqU3cLae84ae8Mae83cLajV4ajVMajV3d3ZqVTZeNYJbYV1bPYoH3d3ZwETZc2YJbaV1hKZr31hKZr52gFawNX2
  aeC3d3bY2TZpRYJazT1bPYoI3d3Zr8TZeNYJbYV3d3akFTZc2YJbaV1bPYoJ3d3Zx9TZc2YJbaV3d3bYETZpRYJazT1bPYoK
  1bPYoL3d3ZrFTZeNYJbYV3d3al4TZc2YJbaV3d3ZyNTZc2YJbaV1gFawM3d3bYJTZpRYJazT1bPYoM1bPYoN3d3ZrLTZeNYJ
  bYV3d3amITZc2YJbaV3d3Z-STZc2YJbaV3d3bYNTZpRYJazT1bPYoO1bPYoP3d3ZrPTZeNYJbYV3d3aWTTZc2YJbaV1bPYoQ
  1bPYoR3d3ZrTTZeNYJbYV3d3aXVTZc2YJbaV1bPYoS1bPYoT1bPYoU2dOZsGZKZsG3cQZhNSZo3X6aaG1hGaxE1hKZsL3d3Z
  nITZc2YJbaV1hKZsP3d3ZnLTZc2YJbaV3d3ZnNTZc2YJbaV3d3ZnPTZc2YJbaV3d3ZnRTZc2YJbaV3d3ZnTTZc2YJbaV1hGa
  y41hKZt61hKZt71hGayG1hKZtB1hKZtC1hGayO1hKZtG1hKZtH1hGaz11hKZtL1hKZtM3d3bZNTZpRYJazT3d3bZDTZpRYJa
  zT3d3ba9TZpRYJazT3d3bZSTZpRYJazT3d3baKTZpRYJazT3d3baPTZpRYJazT3d3baRTZpRYJazT3d3baTTZpRYJazT1h9Z
  u43dTXc81XeNHXeN3d3ZuUTZeNYJbYV2fQZv1XPZv12bAbf2YCbf22bAaiTYCaiT3d3Zv7TZeNYJbYV3d3a_TTZpRYJazT3d
  3bW0TZpRYJazT1h6ax61dEaj83d3ZvITZeNYJbYV3d3bW8TZpRYJazT1bPcR2fQZvQXPZvQ2f0ajKXGx12bAbWRYCbWR3d3Z
  w0TZeNYJbYV3d3bWTTZpRYJazT1bPuM3d3bX4TZpRYJazT3d3bX9TZpRYJazT3d3bXATZpRYJazT1dEak33d3bXGTZpRYJaz
  T1bPcV1fDbWI2dEbXMa4ak92bAbXPYCbXP3d3bXQTZpRYJazT1bPuP3d3bY0TZpRYJazT3d3bY3TZpRYJazT3d3Zr7TZeNYJ
  bYV1dEakE1dEakH1dEakP3d3Zx7TZc2YJbaV3d3bYCTZpRYJazT3d3ZrETZeNYJbYV1dEal01dEal13d3al3TZc2YJbaV1dE
  al81dEalD1dEalK1dEalQ1dEalT1dEalU1dEalV1dEam71dEamC3d3ZyLTZc2YJbaV1gFawN3d3bYHTZpRYJazT3d3ZrKTZe
  NYJbYV1dEamD1dEamF3d3amHTZc2YJbaV1dEamL1dEamM1dEamN1dEamR1dEamU1dEamV1dEan01dEan41dEan91dEanD1dE
  anG1dEanH1dEanI1dEanP1dEanU1dEao11dEao21dEao31dEao41dEao51dEao91dEaoE1dEaoL1dEaoQ1dEaoT1dEaoU1dE
  aoV1dEap31dEap61dEap71dEap83d3Z-QTZc2YJbaV3d3bYLTZpRYJazT3d3ZrOTZeNYJbYV1dEap91dEapB3d3apDTZc2YJ
  baV1dEapE1dEapF1dEapI1dEapJ1dEapK1dEapL1dEapM1dEapP1dEapQ1dEapR1dEapV1dEaq21dEaq31dEaq41dEaq71dE
  aq81dEaq91dEaqA1dEaqB1dEaqF1dEaqK1dEaqO1dEaqR1dEaqS1dEaqT1dEar11dEar41dEar51dEar61dEar71dEar81dE
  arB1dEarC1dEarD1dEarH1dEarK1dEarL1dEarM1dEarQ1dEarV1dEas31dEas61dEas71dEas81dEasC1dEasF1dEasG1dE
  asH1dEasI1dEasJ1dEasM1dEasN1dEasO1dEasP1dEasQ3d3aWRTZc2YJbaV3d3bYPTZpRYJazT3d3ZrSTZeNYJbYV1dEasR
  1dEasT1dEasU1dEasV1dEat01dEat11dEat41dEat51dEat61dEat71dEat81dEat91dEatA1dEatD1dEatE1dEatF1dEatJ
  1dEatM1dEatN1dEatO1dEatR1dEatS1dEatT1dEatU1dEatV1dEau21dEau31dEau41dEau51dEau61dEau71dEau81dEauB
  1dEauC1dEauD1dEauE1dEauF1dEauI1dEauJ1dEauK1dEauO1dEauR1dEauS1dEauT1dEav01dEav11dEav21dEav31dEav4
  1dEav71dEav81dEav91dEavA1dEavB1dEavC1dEavD3d3aXTTZc2YJbaV1dEavE3d3ZrUTZeNYJbYV1dEavF1dEavG1dEavH
  1dEavI1dEavL1dEavM1dEavN1dEavO1dEavP1dEavQ1dEavR1dEavS1dEavT1dEavU1dEavV1dEaw01dEaw11dEaw41dEaw5
  1dEaw61dEaw71dEaw81dEaw91dEawA1dEawB1dEawC3d3aY4TZc2YJbaV1dEawD1dEawE1dEawF1dEawG3dTYoG1YsGHYsG2
  fQaaPXPaaP1h6ai41bPYbV2f0axMXGaZ61bPab21bPYc42dEbXMa4axP1bPab63d3ZnKTZc2YJbaV3d3ZnMTZc2YJbaV3d3Z
  nOTZc2YJbaV3d3ZnQTZc2YJbaV3d3ZnSTZc2YJbaV3d3ZnUTZc2YJbaV2fQabHXPabH1bPYcI1bPYcL2fQabKXPabK2fQabM
  XPabM3d3aaNTZeNYJbYV3d3aaRTZeNYJbYV3d3bZQTZpRYJazT3d3aaTTZeNYJbYV3d3bZTTZpRYJazT3d3ab1TZeNYJbYV3
  d3ba8TZpRYJazT3d3baBTZpRYJazT3d3baCTZpRYJazT3d3baETZpRYJazT3d3baJTZpRYJazT3d3baLTZpRYJazT3d3baOT
  ZpRYJazT3d3baQTZpRYJazT3d3baSTZpRYJazT3d3baUTZpRYJazT3d3abGTZeNYJbYV3d3abITZeNYJbYV3d3bb5TZpRYJa
  zT3d3bbCTZpRYJazT3d3bcBTZpRYJazT3d3bcCTZpRYJazT1hAad01hBad11bFa-H1bJa-M1bJa-N1h3adA1h3adB1h8aiH2
  e0beOYJa_71hAadL1hBadM1h9adO1bFa_I1bJa_M1bJa_N1bJa_P2bGbf91bf91h3adR1dEbW31hFadT1gLbWK2e0bfFYJbW
  L1gKbWM3cQbnDY4ZqSX0ae71bJbWV1dEbXD1hFae92e0ZjUYJbXH1gLbXI1hGae31hHaeC1dEbY53cQbnDY4ZxFX0akS1hHa
  eG1dEbXM1hAaeU1hBaeV1bFbZ71h3af11h3af21h8axB1bFbZK1hAafB1hBafC1hAafJ1hBafK1hAafR1hBafS1hAag31hBa
  g41hAag81hBag92e0bhEYJbc72e0bhMYJbcA2e0biOYJbcE2e0biTYJbcF2e0bjUYJbcH2e0bk3YJbcI2e0bl2YJbcK2e0bl
  7YJbcL2e0bmAYJbcP2e0bmEYJbcQ2e0boHYJbcT2e0boLYJbcV1bVX31b8ad31eTvM1gJbe81h6ai51h5ai61h5ai71h6ai8
  1hEaiC1h7aiG1h7aiI1h8aiJ1gKahM1eNbeL1dRYwH1hLaiO2dTZqD1beT1dMaiS1h1aiV1h2aj31cQaj51hEajB1bPuJ1hM
  ajI1hLajJ1gGx01h7ajM1h7azF1h1ajO1eAbX01eAbX11h2ajR1hMak61gGxR1hIakA1eAbXS1eAbXT1dMbg61fDbgA1hIak
  T1h9awJ1eTaYC1h6ax71h5ax81hEax91h7axA1dRXyL1hLaxF1hMaxL1gGaZ51h7axO1gGaZN1hIaxQ1h5ay01hEay11dRZY
  L1hMayB1h7ayC1dRXmQ1hMayJ1h7ayK1dRZc71hMayV1h7az01h7az41h7az71bVXJ1b8af01gKax32dTZsI1bhI1gJboG1c
  GX11cGX21cGa-21cGX41bPt51e0Zq21bFad61cBvT1bVX51dVYYG1bPYYI1e0beR1bPw51f2w71bFadP1cKa_Q1fDaj71f2w
  K1cGuI1bPwO1dVcP1dVYZI1bPYZK1bPYZN1e0ZvN1e0bfE1dRXdP1dRYa11dVYa21dVuK1dVYa41bPYa61dVYkT1bPYpM1dV
  cU1bPYaL1bPd01e0ZjT1e0ZwK1fDbXJ1e0bg41dVxP1dVd11dVYaQ1dVuO1bPuQ1dVuR1dVYaR1bPYaS1bPYaT1dVYaU1dVY
  l31dVYl51bPd31e0ZkB1dVy91dVd41dVyG1bPuT1dVuU1bPYbC1dVYbD1dVYlA1bPuV1dVyQ1bPv01e0ZeO1dVXpN1bPXpP1
  bPaYH1f2aYJ1f2aZ01dVYbT1dVXq71bPXq91bPXqC1dRYsJ1dRXqG1dVXqH1dVaZC1dVXqJ1bPXqL1dVYc31bPXqN1bPYc51
  dVaZL1dVYc61dVXqO1dVaZT1dVaZU1dVXqP1bPXqQ1bPXqR1dVXqS1bPYc91dVaa31dVYcA1dVaa81dVaaA1bPXqU1dVXqV1
  dVaaF1e0Zc31dVYcG1dVYcK1bPYcM1dVYcN1bPYcP1dVYcQ1cGXH1cGXI1cGXK1bVXL1e0bhH1e0aaV1e0bhL1cQaxK1e0ab
  51e0bi31bPab71bPabA1e0biR1e0biS1e0bj91e0bk11e0bk21e0bkF1e0bl51e0bl61e0blJ1e0bmB1e0bmD1e0bmH1e0bo
  I1e0acH1e0boK1e0acJ1e0boP"

end ScriptCensus.Grammar.TypeScript
