/-!
# The JavaScript actions

The distinct lists of actions of the automaton, packed.
-/

namespace ScriptCensus.Grammar.JavaScript

/-- The distinct lists of actions of the automaton, as packed numbers. -/
def entries : String :=
  "XoJ112110Z5110XkL110b1110Xf1110mD110XcH110XcI110XcU010Xo3110c8113dD1G4110d1010cO110cO010d0010cS1
  10cS110cN010cN110Z1010d2110d2110XgH010cT110a1110cU010cV110cQ110XdD113bI1G1013bI1G1113cH1G1110cR1
  10d3110e2110pB113cN3GXA110XYL013bI1G0113bI1G0010Xd6110YV110XcD110XcE010XYR010XaQ110m7010m7110Xa9
  010Xq3013cN3GXA110XXP110XgM110YT110XaH110XaI010p3110wO113cH1G0012110c3110cP010bQ110bQ110XYN010ZR
  010XnE010aK010c2110bO110dN110cE010bF010XP110YC010bG110bG110bH110p3010p4010d7010XO010cI110cI110cJ
  110Xp9110ZS010bU110bU010dF110dF010bO010dM010c4110c4010dI110dI110dE010bV010dE010XX0010XX1110gG110
  c0010dO110dO110XnF010c1010dJ010_T010XfU010P010Xg0010XcS010XcT010Xg1010ZC010ZQ010XYO010XaJ110bS11
  0eB110dK110f21102010XfS010XfT010XcR010XfV110bT010e3110e3010dL010eQ110eQ110Z0010-6110c5110bP010eA
  110dG010f1010e6110e6110e1110dH010eT110eT110eP110ZB123bI1G10Z0010e1110dP110eH010eP010XX8110XX8110
  bJ110YF110Z3010eC110eC010f3110f3110_8010jO010fA010gF010fN010jP010jJ010jK110vH010fL010nP110YE123d
  D1G40Q010e7010eU010dS010XR010d9110d9110dA110XpN110e8110eV110Xh4110v9010e9010f0110XZ6110XoB010c70
  10dB010dD110e4110eR110_7110-3110e5110eS110wU010aS110bK010bI010zJ110aE110eD110f9110f4110f8123bI1G
  13dD1G4010XbB110wS110x1010XeS110YN110Xc3110Xc4013bL2G0113aP3G0013aP3G0110oS110oJ110mH110YQ110x61
  10vG010Xa2010XcL113aP2G0113bK2G0010jR010jQ010fP010p6110YU123bI1G10c8110aM010cM113d81F0010XbU110e
  F013aP2G0013bK2G0110vI110YG110cD110XX0110XX1110XnJ110XnK110Xg3110a9110Z7010XaE110wT010bM010kE010
  kD010fU010r5010cK110a0113cA3GG113bK3GH113cA3GX9113cA3GXH113cA4GY6113cA4GY8113cA4GY9113cG3GX8110X
  d3010jT010jS010lT110YP023bI1G10_8010XpF010XpE010XnS010XnR010XYQ023bI1G10a8110aF123bI1G03d81F0023
  d81F00cM023bI1G00a9013bH1G0113bH1G0013bO2G0113bO2G0013bP2G0013bK3GH013bL3GI113cG3GF110_J010y1110
  XXV010xK110-P010yB110cB110cC110YD110sL110Xd0113bJ1G0013bJ1G0113aP4G0013aP4G0010XcV110XWU110Q010X
  b1110X9010bN113d92G0113bJ2G0113bJ3G0113cI3GXA113cM5GYN113bP2G0113bL3GI113bL2G0110XmI010fQ010b701
  0Xq8010l9010l8010gD010bE010Xq9013c33GX3113c33GX3013c34GY5113c34GY5013c64GYA113c64GYA013c34GYE113
  c34GYE013c65GYM113c65GYM013c85GYM113c85GYM013c35GYQ113c35GYQ013c86GZ0113c86GZ0110YJ123bI1G13d81F
  1023d81F10cK010XcO010XpS010XpR113d81F1110aU010a8113bG3G0013bG3G0110b8110aN013cC2G7113cC2G7013bQ2
  GB113bQ2GB013c03GV113c03GV013cU3GX7113cU3GX7013bV2G0113bV2G0013bQ3GXG113bQ3GXG013c04GXU113c04GXU
  013bV3GV113bV3GV113cR2G0113cR3G0113dT2G0110bR110rP110t2110tV123dL2GH3dM2GI110Xk5110XmE113dL2GH11
  0XhK110pL110XWC110mL110XZN110XZT110XZA110XdH110XdO110aA110ZV110XYU110x2110XX3110XbD110XbE110r011
  0nF110XZR110Xa1010j7010ZT010fO010fB010fF010fG010Xa9010kQ010kN010eI010XQ010g4010eJ110eJ110dT110Xq
  A010sI010lE010lD010f7010XS010h6010eK110eK110eL110XqI010wD110g6113d42G0013d42G0113d43GY3013d43GY3
  113c43GX3110iE113c44GY5110iL113c74GYA110iM113c44GYE110iP113c75GYM110iR113c95GYM110iS113c45GYQ110
  iT113c96GZ0110j1010XpH010XgQ010XgP133bI1G13dD1G40Z0010zI123bI1G03dD1G4010c9023d81F00dD010e0123bI
  1G03d92G0010eO113bK3G0013bO3G0113bO3G0013d02G0113d02G0113bK4GH113bK4G0013d03G0113d03G0013d04G011
  3d04G0113bN3GXM113dE3G0113cJ2GXP113dN2G0110Xo9110x0110_K110a3113aC1G0113aO1G5110k1110k2110jA110j
  B110dD110XdE110bM110cM113dO2G0113e22G0110lL010XaA010XcP010XYN110Y0013c43GX3013c44GY5013c74GYA013
  c44GYE013c75GYM013c95GYM013c45GYQ013c96GZ0010j6110vJ110YH110Xc0110Xg9110Xi3010XnU010p21104110601
  0Xh2023d81F10dB113d92GJ010XcQ010XqE010XqD010dU123bI1G13d92GJ113aR3GO010XqL010XqK010eM013cE3GXB11
  3cE3GXB013cE3GXC113cE3GXC013cE3GXD113cE3GXD013cE3GXE113cE3GXE013cF4GYC113cF4GYC013cF5GYO113cF5GY
  O110b0110a8110b9110Xa3110nK013cD2G0113cD2G0013cO2G8113cO2G8013cP2G8113cP2G8123bK2G03bL2G0123bO2G
  03bP2G0013c32G6113c32G6013cS2G0113cS2G0013cB2G9113cB2G9013cP2GA113cP2GA013cA3GG123bK3GH3bL3GI013
  bK3G0013cV3G0113cV3G0013c33GX4113c33GX4013c63GX5113c63GX5013cC3HX6113cC3HX6010nD013cS3G0113cS3G0
  013cA3GX9013cB3GXF113cB3GXF013cA3GXH013c33GXJ113c33GXJ013bK4GH013bK4G0013bO4G0113bO4G0013cA4GY60
  13c64GY7113c64GY7013cA4GY8013cA4GY9013c84GY7113c84GY7013cU4GYB113cU4GYB013c34GYF113c34GYF013c85G
  YL113c85GYL013cR2G0013cR3G0110XYV010qU110hF113dD1G0110hU110hV113bN3GX8110jU110pK110ZE110XbM110qV
  110k3110XZB110ZJ110k4110A110k5110k6110X2110ZL110k7110X5110X6110kC110X8110kI110mK110nE110jC110XZL
  110jD110jE110-N110gV110XH110XK110XL110XN110ZN110ZP110ZG110XeB110M110_9010zL110XgS010zM110-7010-8
  010-9010-R110_M010-T013d12G0113d12G0110YK013e11GX1113e11GX1110XiK110XmR110XnM110XWV110XnN110XZ01
  10Xa4110Xa7110Xa8113bL3G0113bP3G0110XeJ113bL4GI113bL4G0110XoQ113bP4G0113cQ2G0110XY0110XoN110a711
  0YR110XZ1110a6113bR2G0013bR2G0113bR3G0013bR3G0113aO2GM110aB110aC110b6110XaC010oP110XgT110Z2110Xh
  0110XX7010oT110x4113dJ2G0010XZG010XZH010XZI110XYF010XZJ010nJ010nL010XYJ010XYK110Xe9113dL2G0113dM
  2G0110XoK110G113dC3GXN113dH2G0113dI2G0113aE1G0110a4110pI110mJ015113a50G0110C110XT110oU110p1010jF
  010aL010g1010fC010fH010fI010jG010aT010g2010fD010fJ010fK113dF2G0023dF2G01jO023dF2G01fA013dF2G0123
  dF2G012023dF2G01_T023dF2G01XfS023dF2G01XX0023dF2G01gF023dF2G01XX1023dF2G01XfT023dF2G01XfU023dF2G
  01XcR123dF2G01YT123dF2G01gG023dF2G01bF023dF2G01XfV023dF2G01P023dF2G01Xg0023dF2G01XcS023dF2G01XcT
  023dF2G01Xg1023dF2G01ZC023dF2G01ZQ023dF2G01XP123dF2G01YC123dF2G01XYN123dF2G01XaH123dF2G01XaI023d
  F2G01XYO023dF2G01fN023dF2G01XaJ023dF2G01ZR023dF2G01bG023dF2G01XnE123dF2G01bG123dF2G01bH123dF2G01
  XXP123dF2G01p3123dF2G01XnF023dF2G01p3023dF2G01p4123dF2G01XcU023dF2G01jP013bD2G0113bD2G0013bD3GX4
  113bD3GX4013bC3GXP113bC3GXP013bC4GZ2113bC4GZ2113a51G0113a52G0110fS110fT110Y1110Y2110lS110lR110zG
  110zH110h1110h3010kL010fE1103010Xm9010h4010XmA010XfL010XmB010g3010kM010cL010bL010dV010dC010eN110
  Y3110oO110m9110oI110rO110t1110tU010gA010gE110XXS010l0010kV010XX4010hO010XX5010g8010sQ123dN1G03dO
  1G0010l7010l6110vK110YI010gC010tT113dO1G0110pV113dN1G0110XjD110mT110-M110XZ8110XZK110hE010lC010l
  B010XY3010jI010XY4010h5010vL110X1110X3110X4110X7110XG110XI110XJ110XM010kK010kF010fV1105010jM010j
  L010fM010kP010kO010g5010lG010lF010h7010kU010kT010g7010sO010kH010kG010g0010r6110YL113b22G6013b22G
  6010XdU110g9113b23GS013b23GS113b91G0013b91G0013aR3GO010X0113b14GXS013b14GXS110iK113bE2G6013bE2G6
  113bE5GZ7013bE5GZ7110h0110h2113aK1G0013aK1G0113aB1G0013aB1G0113a62G3013a62G3113b42G0013b42G0113b
  52G0013b52G0113b62G0013b62G0113b72G0013b72G0113aL2G0013aL2G0113a63GD013a63GD113bA3FE013bA3FE113a
  63G0013a63G0113aD3GK013aD3GK113b33GL013b33GL113aM3G0013aM3G0113aN3GN013aN3GN113aS3GP013aS3GP010X
  XE113aU3GQ013aU3GQ113b03GR013b03GR113b23GT013b23GT113b43GU013b43GU113b53GU013b53GU113b73G0013b73
  G0113b83G0013b83G0113a63GXI013a63GXI113a64GXK013a64GXK113a64GXL013a64GXL113aD4GXK013aD4GXK113aD4
  GK013aD4GK113aM4G0013aM4G0113aN4GN013aN4GN113aR4GXQ013aR4GXQ113bB2G0013bB2G0113aU4GXR013aU4GXR11
  3bF2G6013bF2G6113b24GXT013b24GXT113c44GX3013c44GX3113a64GYD013a64GYD113aD5GXK013aD5GXK113aQ2G001
  3aQ2G0113bB3G0013bB3G0113b15GXS013b15GXS113c45GY5013c45GY5113c75GYA013c75GYA113a65GYP013a65GYP11
  3c45GYE013c45GYE113aT6GYU013aT6GYU113c76GYM013c76GYM113c96GYM013c96GYM113c46GYQ013c46GYQ113aT7GZ
  4013aT7GZ4113aT7GZ5013aT7GZ5113aT7GZ6013aT7GZ6113c97GZ0013c97GZ0113aT8GZB013aT8GZB113aT8GZC013aT
  8GZC113aT8GZD013aT8GZD113aT9GZE013aT9GZE010XeM123bI1G10YN013aV5GYS113aV5GYS013aV5GYT113aV5GYT013
  aV6GZ3113aV6GZ3013aV7GZ9113aV7GZ9013aV7GZA113aV7GZA110nM123bI1G03dD1G0113cL2G0123bN3GXM3cG3GF123
  bO3G03dE3G0123bN3GXM3cG3GX8123bN3GX83cG3GX8113bM3GX8023cJ2GXP0e1023bO2G03bP2G0023bK3GH3bL3GI023b
  K2G03bL2G0110sS110k8110kA010XX6110lU010x7010x8010xJ110i3113dB3GXN110iO110iN010XXJ110oV010x9010xA
  010xL010XXL110oK010xB010xC010xM010XXM110rQ010xD010xE010xN010XXN110t3010xF010xG010xO010XXO110u001
  0xH010xI010xP113c52G0110cG110XiI023cJ2GXP0eP110d6110Xc2110dR110eG110f6010XZ3123dL1G03dM1G0010xR0
  10xS010xV010XZC110Xj8010xT010xU010y6010XZ4110XXR110XU110wV010XbJ113dL1G0010y3010y4010yC110XV023e
  12GY41XbU123e12GY41_J113e12GY4123e12GY41x0123e12GY41eF123e12GY41Xc3123e12GY41Xc4023e12GY41y1123e
  12GY41XXV123e12GY41XcU023e12GY41xK123e12GY41-P023e12GY41yB010Xa5110XbV110mM110x3110n7110gT110x51
  10gU010XbI113dM1G0010y7110XY8010yD123dD1G40Xi5010zK010XZ1110_L010y8110XY9010y5110-S010yE010yF110
  _O010y9110XYB010yG010yH110_N110XmK010-U010-V110_Q110Xn0010_2010_3110Z6010XoD110XmM110XmN110Xn111
  0Xn2013dG2GC113dG2GC123dG2GC1XcU013dA3GXO113dA3GXO013d23GXB113d23GXB013dA4GYA113dA4GYA013dA4GYH1
  13dA4GYH013dA5GYM113dA5GYM013dA5GYR113dA5GYR013dA6GZ0113dA6GZ0013dA6GZ1113dA6GZ1013dA7GZ8113dA7G
  Z8110zV110zU110_A010-B110_B110XhN010-C010-D110_C010zP110XhO010-E010-F123e11GX11zS110_E110XiR010-
  I010-J110_F110Xj0010-K010-L013d72G6113d72G6013e12GX1113e12GX1013d73GX4113d73GX4110_R110Xn4010_40
  10_5013dG1G2113dG1G2110_D010zQ110XhP010-G010-H110XhQ110XhR013d32G9113d32G9110XiN110XiO110XiS110X
  iT110Xj1110Xj2110XjP110XjQ110Xk0110Xk1010-0110YM110_P010-1110XmL010_0010_1110XmT110XmU110Xn5110X
  n6110Xn9110XnA110XnC110XnD110c6110XhM110XiM110XiQ110XiV110XjO110XjV110d4110dQ110eE110XmJ110XmS11
  0XmV110Xn3110Xn8110XnB110f5110Xg5110XW0110XW3110XW6110XW9123dP2G01Z7123dP2G01XWC023dP2G01XaE113d
  P2G0110qL110XaF110XbO110XbP023dQ2GXV1XX8123dQ2GXV1ZB113dQ2GXV123dQ2GXV1XX8110n6110XZQ110Xa0110Xo
  0110XdF110Xo6110Xo7110XYQ110XXD110XXE013c11G4113c11G4110XWL110d8123aO1G50Xj9110XeN110Xp1123dT2G0
  1cP110XXQ110p9110pQ110iA013c11G0113c11G0110XWM113d51GX2123e02G01XY0113e02G0123e02G01ZV110iJ110Xb
  N110XeM110Xp0013bU3G0113bU3G0013bT3GXB113bT3GXB113d52GY0113d52GY2123dK2G01XoN113dK2G0123dK2G01a7
  113d53GYJ110XYM110mB110mR010_V110XWA010Xb0110-5010XbA123d81F00cM113bS2F0013bS2F0010Xe7110qC110Xh
  C010XbG110XoH110XY1010XbL113bS3FV013bS3FV013dQ1GX0113dQ1GX0110XiD113bS4FXU013bS4FXU013c13G4113c1
  3G4013c13G0113c13G0013c22G0113c22G0013c23G0113c23G0010XcA010XfA110mV110XkS110Xc1010XcC010XfI110X
  ZO110Xm5010XfK110XZU110Xm7010XW2110XWD010Xc9123d81F00dD010XcB010XW5110XWF010XW8110XWH110-Q110XaU
  110XaV110XgF110XdC110XgI110hI110Xo2110hJ110hL110hM110XgV110XdS110XZ5110Xh7110Xe4110i5110i4110i71
  10i8110Xi0110XeF123dN2G01Z3013dU2G0123dU2G01XbD013dV2G0123dV2G01XbE123dT2G01bR113dM2GI123dJ2G01X
  X3113cT3G0110d5010XbQ110XbQ010XbR110XbR010XbS110XbS010XbT110XbT023dR2G01XbS013dR2G0123dR2G01XbS0
  23dS2G01XbT013dS2G0123dS2G01XbT110Xc7110Xc8110XkM110XcF110XcG110XcJ110XcK110XmF110XfO110Xa6110Xm
  O110XfP110XmD110XfQ110XmG110XfR110YO110Xg8110XgA110hB110XgB110hC110yA110XZ2110XX2110pH110Z8110Xp
  C110Xh9113a82G0110XX9110XZ9113a91G5110qI110XXA110XXB110qJ123dL2G01wU123dM2G01x6113aA1G0113aI1G51
  10XXC110Xi1110Z4110XY5110qK110XXF123dO2G01YU110Xi7113aF2GK113a83G0110XXG110cH110XXH110XjA123e22G
  01ZA110r3113a84G0123dH2G01XYC123dI2G01XYD110Xj9113a85G0110XYE110mI110n3110XYG110XYH110n4110n5110
  XYI110nI110XkG110XkH110XkI110-O110YS110XmC110XF110XmP110Xn7110XmH110XmQ110ZU110hD110XgL110Xo1110
  Xb6110XXT110ZH113d62G0110hS110hT110I110jV110k0110i2110i1110XhG110XoI110wR110i6113d63G0110aV010XY
  6110XY6110zS110N110iH110iG113aJ2G0110K113d64G0113d52GY1113a93GYG113aI3GYG110aD113d65G0113d53GYI1
  13d53GYK113d54GYV110j8110j9010XnV114110bN110a2110Xb4110XgK110cA110Xo5110Xh1110a5110pP110XhH110Xb
  H110cF110XoJ113aH2G0110XoL110Z9110XY7110yK113a73G0110XiE113aG3G0113aH3G0110Xj6113aE3G01108113aH4
  G0110Xk8113aH5G0110k9110kB110aG110aH110aI110aJ110mQ110aO110aP110aQ110aR110rN110vF010XpI010XpU010
  Xq1110e0110b2110b3110b4110b5110bA110bB110bC110bD110eO"

/-- The sets of tokens that share a list of actions, as packed numbers. -/
def groups : String :=
  "fM2ZBO1X81K2Z611XH1XI111XE1XQ1X71YO24YI1YN2YK1171YE2YF1183YP52C4KJ1X232111423OJ12YQ22YR21YH1YJ1Y
  I1YC1YD1XN191YV1a22ZH11ZR1XO1XB1XP1XLFXS111111111111111ZC1ZI141N1A1X61XR1YM1ZH5ZL11111ZQ712BX9Y5
  215YK1E112Z11XA12252111111143111111123F213P11D11G11111221H072B1J361XF14155191M1X2T711B1139615CI1
  21251122111615M53BZE212ZU11LQ81B14F6CI121251122111615K2K4KJ1X01111111111112231a01XC2LZB1X91YB2KE
  1D1ZB1a31XD1E1F131C1Q481DJ1H1I1J1R1S1T1U1V1X01X11O2811ZS1ZT3ZS2163BX9Y521L4KJ1X01111111111112231
  1XG412BZE512BX9Y51PDKK6CV2212615M312B47X513L4KF41X0111111111111223N8C1J6CI121251122111615M1ZU1ZV
  4K1IYP781C1C7Y3LKK6CI121251122111615M581CYNK58D4YJK37RYA2PYJ1B151XM47X35YLF072B1J91XG415519XC122
  521111111431111111235A213P11B211G11111221A4KK2X032724F8XII12125112211X3C8DX5V221815K22GA2XAYQ1XF
  2Z822Z912E1BX86CV221815M812BX72Y521B441CJ91XV192A45CJ91XV19268D31EYPX4711B1139615C21111111111111
  1F2212615MX181B14F6C211111111111111F2212615K238DZB84X491XV1922O1XN121152111111141111111111235127
  213J321114241211G11111221F8DJ6CV2212615K2G8C1J6CV2212615K2LOJ12U1111111111112231381X0X7127211121
  14311111115F213P11D11G11111221F7D1J361XF1415519J4X71X01111111111112231XA25U6YK1C2111Z2JOJ1X01111
  11111111223I072B1J361XF14155195J81B11C615CV2212615MH81B1J6CV2212615K2H8C14F6CV2212615K2EK5F6CV22
  12615M7OJ1X52728OJ1X232722YH2AOJ1X23211524YH272B4X71X23211142781D21E22ZAN1ZD1610V0711B1J918I1212
  511221134155195243ZP2128X1E8DJ6CV221815K2I0711B1J361XF1415519XC1225211111114311111112111F213P11D
  11G11111221M4K1I1X01111111111112231K4X71X011111111111122311ZGR81B11C615CI121251122111615M3BAZB27
  XI1ZF1ZE9OK2X03272438EJ43BX9Y5M4KJ12U1111111111112231D8DPCV221815K2F8C1J6CV2212615MO7D5966CI1212
  51122111615M2KX61X31XJ1XK4M21EAO1J2X032724U0711B1J918I1212511221134155197H81C1C615CV221815MF81CJ
  6CV221815K21X5DLJ6CV221815K2E8C1PCV221815K21GXB122521111111431111111221F213P11D11G11111221F7DE66
  CV2212615MN711C1397X3121251122111CMD4KJ1X232111424B81C1C7X31IDMJ81C1C7X31212722111CMC81C1C7X315D
  DMK81C4XJ121251122111CK2R81B14966CI121251122111615K2981CXN1IDK2H81CXN1212722111CK2A81CXN15DDK2E4
  K1I1X23211142498D4XJ1IDK2H8D4XJ1212722111CK2A8D4XJ15DDK2N8DJ6CI121251122111615K22XB177RXA1IDMF7R
  XA1212722111CM87RXA15DDM6PXJ1IDMEPXJ1212722111CM7PXJ15DDM59C1C7662129E5C81IYP28E1ZK1ZJZQ01111111
  111111111111111111111111111111111121212131111111111111111111111111111111111111111111111111132113
  11111111111111111212209K81C1C7HI12125112211X3I81CX5I12125112211X12H8DX5I12125112211X12FX2OI12125
  112211X3EXQI12125112211X31X4D8DJ6CV221815MD7R66CV221815MI072B11I361XF1415519X9122521112114311111
  1123F213P11D11G11111221G072BK361XF1415519D8C1PCV221815MDK1PCV221815K2L711B1139615CV2212615MBKQCV
  221815MI81B14F6CV2212615K2O711C1397X312125112211161RR711C139615CI12125112211161RP711B11397X31212
  5112211161RS711B1139615CI12125112211161RP711C1397X3121251122111615MR711B11C615CI12125112211715ML
  81C4XJ12125112211161P2O81C4F6CI12125112211161P2H81C1C7X315722111CMK81C1C7X312125222111CMA81C1C7X
  4IDME81C1C7X315922DM981C1C7XMDMM81B14XJ12125112211161P2P81B14F6CI12125112211161P2M81C4XJ12125112
  2111615K2681C1C7P81B14F6CI121251122111615MP81B1J6CI121251122111615K2O81B1J6CI12125112211715K2F81
  CXN15722111CK2I81CXN12125222111CK2881CXOIDK2C81CXN15922DK2781CYADK2N8C1J6CI12125112211715K2F8D4X
  J15722111CK2I8D4XJ12125222111CK288D4XKIDK2C8D4XJ15922DK278D4Y6DK2P8C14F6CI121251122111615K248D4Z
  7D7RXA15722111CMG7RXA12125222111CM67RXBIDMA7RXA15922DM57RXTDMKKK6CI12125112211715MCPXJ15722111CM
  FPXJ12125222111CM5PXKIDM9PXJ15922DM4PY6DMMK5F6CI121251122111615M3K1I21D74X491XV1B912BX072Y52194G
  K91XV192945V91XV1922XC428D57X051357X5112581DH22MJ4ZA21K3C9ZB"

end ScriptCensus.Grammar.JavaScript
