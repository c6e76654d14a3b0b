/-!
# The TypeScript actions

The distinct lists of actions of the automaton, packed.
-/

namespace ScriptCensus.Grammar.TypeScript

/-- The distinct lists of actions of the automaton, as packed numbers. -/
def entries : String :=
  "an9112110ahO110Zu9110e7013cI1G1113cI1G1113dC1G1110afP110afQ110bZ4110gQ113e71G7110XpG110afH110afI
  110ahI010aeQ010Zp5010XpB010Zc9013cI1G0113cI1G0110-7010Zq3110aeN110aeO110XY3110XY4010Xb5110j6010b
  m0110ZsC110c3110XpB010ZZ9110e5110jA110_6113dI3GY8013dI3GY8110lD113dC1G0110a-D110g1010nS010bC010n
  U110nR010nR110bmU110YXV110jG110lJ010bdS010YwC110XgP010YwP110cC110hC010ahK110acL110acM110fS110XkI
  110dE110YwK010Yg2010XeO110_3110_4110ZpQ010-7110XkH110dD010YXL110c2010n7110c8010bdQ010bdR010XgP11
  0YM110uF110ZuF110YwL010YwL110k5010bd0110XkU010Zh6010YwM010jS110jS010Xp8010k4010aQ110Zq4010k0110k
  0110jR110cH110YXL010_1010jR110m2010k6110k6110beJ010k1010lP110lP110k2123cI1G10c8023cI1G10ahI010aS
  010m1010k3110_A123e71G70X0013e71G7123e71G70XkU010lT110lT110lO110jU010lO110jV110_B110_C010m3110m3
  110k7110l0110bdP010lU012110iJ110mB010mC010b3010mE010mB110r5110bmL110lV010m0010j7010bh3010acV010-
  V110lR010beM010Xm0010XwM110lS110m4110mK110j1010iA110iA010iB010b4010iC110iD010XiV010XdD010u9123cI
  1G13e71G7023cI1G13e71G7110p6010YXM110-T110-U110_0010aH010Yq9010Zp6110g3010iO110iO110iI010YvO010j
  0010aN110iM010oU110oU110h0113gE1G0010iS110iS010aU010p5010XcS010XaD010sI010XjC113g52G0113fP1GD010
  iM010p1110p1110oT110bd1010j2110j2110l9010oT010ZiF010Zh4110uE010bd2010bd3010bd4010XZC010acQ010ZbJ
  010ZiK110XkJ113g91G0010iT010p7110p7110XZ8110XZ9110XZB010bpH010bpB010XcT010YN010XuH013g52G0110iU1
  10YsL010l1110l1010p2010YvN010azO010V010azQ010ah1010ah2010azR010f9010fR010ZbH010ZiG110f0010n9010i
  V010aR010l8110p3110pV110nJ1104010azM010azN010ah0010azP110XkF110kE010kF010b6010kP010kE110jM110bgR
  110iQ110mT110oD010l4110l4110kV010p4110qN110hU010YpT110e8110iR010kV110oV010pN110pN010nB110nB113e2
  1F1123cI1G13e21F1010Xg5010XbC010t0110YWK110_2010XkN110YsO010YYL010ZZ8110Y_3010XwO010YYM010YfK123
  cI1G03g91G0023cI1G03g91G0110j3110iN010mL110mL010o5110o5010lA110lA110p0010aV010pU010qF110qF010aT0
  10nI110YE010ZF010YfV010b0010mS010b1010oC010l5110p8110pH010pQ110pQ110pM010b2010qM010nE110nE110nA0
  13e21F1113fP1GF010mO110mO110mJ010o8110o8110o4110l6010pM010qI110qI110qE010nA010XeG010rM010XdJ010X
  aJ010XaK010sM010Z0010XeH010s1010XaL110XwI110Xr1110XrO010iG010Xg4110dF013f61G0113f61G0110bWA110aj
  E010mJ010o4010l7010q0110q0010qE010nK110nK010XgF010XbI010t4110gN013f51G0113f51G0113fP1G0010mU110m
  U010oE110oE110l2010pR010qO110qO010nF113e95Ge1013cL2G0110hD110Yu6010mP010o9110l3110pS010qJ110nG11
  0YwC110bdS110XWP110gH010lL010agS010XZA113cK2G0110I010lN110jT110mQ110oA110lB110rD010pT110qK010nH0
  13cK2G0010mR010oB110pO010qL110nC110cB110XZG110XYO023e21F10n7010kS010Xe7010XaH010sK123cI1G03fP1GD
  023cI1G03fP1GD123cI1G13gE1G0023cI1G13gE1G0113fI1G0110mM110o6110YfE110pP110qG110nD113e94GcJ010YwK
  113e32GX1013gE1G0113gG2G0010ZXD110aO123cI1G00beP023cI1G00_2013d62GJ113d62GJ013cO2G0013cP2G0113cO
  2G0110mN110o7110q1110q9110qH110nL110nV110XYP110XZK010-T010-U010_0010YU010YXK010ahI113eS1G5010bn1
  010bn0010_2113e21F0113gQ2G0110mV110rF110oF110oO110qP110r1110T110Zh7110YYN010YYN110YsK010e2010pJ0
  10bdP113bP3G0013bP3G0110ZpT110ZbI110ZiF110ZiI110Zh4110bd9110bdA110azU110Yr7110bd2110bd3110bd4010
  YpU010YrS110ag1110ag2110XwD110h1010YeU110Y_C010YhC110zC010dK110Yu5110dI110Y_8110dL013fP1G0113fR2
  G0110ZsJ110lQ010e1013eS1G5123cI1G10j6110XjO110s5113fE3GYB113fE3GYC123cI1G03e21F0113fG2G0113fF2GJ
  113g32GJ113eU3Ga5113gU3Ga7113gU4GbJ113d23GS113d23GY7113d23GYH113d24GZK113d24GZM113d24GZN113dB3GQ
  113dB3GY6113e96Gf6010eT110Y3010kM010YgO010bdM110q6010q7010bB010q8010q6110rB110bnL010XeE113bP2G01
  10XaF110XW9113e32G0110aaK010XX8013fI1G0123cI1G03fP1GF023cI1G03fP1GF010XWA110XYL010XWQ110XjV010fU
  010-S110-S110XXL110XY5023cI1G10nR023cI1G10bm0123cI1G10lJ010Xc9010XZR010ZQ110aP010YcE010bL010Xf81
  10X0110XG110h6023cI1G10g9023e21F10lL110hI110hO110i4010XhA110r2010r3010b7010rC010r2110r4110bo1013
  cJ1G0113cJ1G0013bP2G0010YbM010YJ010XgG010ZI010YjE013cH1G0113cH1G0110e0110ZsD110Zp3110Zp4110Zi911
  0bm3110bp9110bcM110YrJ110bo2110bm1110bm2013e21F0110YsM010YYE110YzQ010XrH010XwL010YfI010XrI010YrA
  010YsN110dO113fI1GG110XZH123cK2G03gG2G0023cK2G03gG2G0123cO2G03gQ2G0023cO2G03gQ2G0113gA2G8013eU3G
  a5013dN2G0113dN2G0013eG2G0113eG2G0113cJ3G0113dD3GY8113dB4GZR113dB4GZS113dH5GbP013dJ2G8113dJ2G801
  3d82G0113d82G0113cJ2G0013dK2G8113dK2G8110YY6110XZE110fU110_7023e21F10jO110dQ010Xc4010ZN010Yn2113
  cQ3GYB113cQ3GYP023cI1G10YsL110bdV110be0013d93GYB113d93GYB013d93GYC113d93GYC110g0123e71G70XuT123e
  71G70XwI123e71G70Xr1123e71G70XrO123e71G70Yh6133e71G73h52GV3h62GX0013fP1GF010XX9013gA2G8010XWB110
  aeH110XXM110XZI110XY6110XZJ010YWJ123cI1G10c3123cI1G10dF023cI1G10-7123cI1G10ZsC010bn4010g9023e21F
  10pJ110_J010bmS010bnC110Xh6010XeJ010XaM010sN010XhD010YoA110jF010Zh5110eA010iL010pL110hV110gA110Z
  sE013fP1GD013fG2G0110M113fI1GH113g42GZV010YaP113cK3GV123dN2G03fR2G0023dN2G03fR2G0110gB113cP2G011
  3cL2G0110XYK110aM110ae0110S110Zj3010XeF010Xe8010XaI010sL010YV010tC010XhH010XcE110pD010pE010bA010
  tO010pG010pD110rA110bnE010XhI010XcF010tP010XfH010XaT110r7010r8010b5010sS010rE010r7110kQ110boR010
  XgD010XbG110oK010oL010b8010t2010oN010oK110r9110bn6010XhL010XcI110qU010qV010b9010tS010r0010qU110n
  5110bnR010Z1010Xh6113dM2G0113dM3G0113bP4G0013bP4G0010XlR110ZpU110XlT110ZiR110a-B113dR2G0113dR3G0
  113dR4G0023e21F00lN110gI010jQ110az9110bQ110azA110awO010bo5110ZiJ010XYH113gS2G0113gR2G0113fS2GY20
  13gU3Ga7113gS3G0113fS4GY2013gU4GbJ113fT7Gf7113fV3GYU113fV3GbR010XY2013cK3GV013cL3GX0110Zd6110YuD
  110XuT110YgS110YlI110eM123h52GV3h62GX0110bXU113h52GV110ZqE110beP110eB110XYM113e93Gb4110ZsG110XWQ
  110adL110adM010XfE010Xf5010XaP010sQ010Z5010mG123cI1G13e32GX1010jO010o1010oQ010qB010XeK010Z8010Yf
  9010ZS010YkF010a7010YoB010a3010Yo9010a4110K110dN113cR4GaK113cR5GbT113cR5GbU113cR6Gd7113gG3G0113g
  G4G0113gG5G0113gG6G0010Zj0010bnO010bnN010u2113gF3G0113gF4G0113gF5G0010ah6010mI010kU010o3010oS010
  qD023cI1G00gA110jL113g52GXQ113g52GXR013g91G0113fU2GXV113fU2GY4010YqT113cL3GX0113h92G0010YbS010Yg
  5113bC1G0010ahU110eC010ai0110Xk4113bO1G5110gD110ahQ110a-L010dP110cK110YXO110ZuB010XhU010XhK010Xc
  H010tR010a6010ZZI010XWO010biI010ZYI010XfO010XgN010XhV010XhR010XhS113bB1G0113eR2G6113eS2GU113cS3G
  XH013cR3GXH113cR3GXH113cS4GZF013cR4GZF113cR4GZF113cS4GZG013cR4GZG113cR4GZG113cV4GZP013cU4GZP113c
  U4GZP113cS4GaK013cR4GaK113cS5Gb7013cR5Gb7113cR5Gb7113cV5GbB013cU5GbB113cU5GbB113d15GbB013d05GbB1
  13d05GbB113cS5GbT013cR5GbT113cS5GbU013cR5GbU113d16GcP013d06GcP113d06GcP113cS6Gd7013cR6Gd7013dM2G
  0113dV2G0013dV2G0013dM3G0113dV3GZE013dV3GZE1107010ah3110ah4110ah5010bd8010ZiP013gG2G0010bmP010bm
  O010bo7010bo6013dR2G0013dR3G0013dR4G0010c4110af9110afA013gF3G0013gF4G0013gF5G0023e21F00n9023e21F
  00jQ013fE3GYB013fE3GYC110Xk1013fI1GG113gE2GY3013fF2GJ013g32GJ113gB1G0013fI1GH113g91GI113g52GXS11
  3g52GXT013gQ2G0113gT2G0013fR2G0013fU2GXV113gC2G0113g62G0013fU2GY4113fF2GY5013g42GZV113g32GY5113g
  42Ga0113g32Ga1113g42Ga2113gD3G0113gQ3G0113fR3G0113fE3Ga8113fE3Ga9113fE3GaA113fE3GaB113gT3G0113gP
  3G0113g13GYB113g13GYC113g13Ga8113g13Ga9113g13GbF113g13GbG113g13GaA113g13GaB113gQ4G0113fO4GbI113g
  74G0113g24GaH113g24GcT113g24GcU113g24GcV113gQ5G0113fO5Gd0113fO5Gd1113g25Ge4113g25Ge5113g25Ge6113
  g25Ge7113fO6Ge8110YsQ013dP3GX9113dP3GX9110Yt0113cN3GYQ110Yt2110YuC113dE2GYT110YuE113h72G0110ZdB1
  10ZqT110_8110aeA110be2110ZvQ010Zj6010beK010YYB110ahC013e32GX1110_T010jC110ZZD110XWK110XWL110XWN0
  10bp2010biH010kA010m7010nN010oH010pA010q3010qR010lE010n1110Y1110Zi3110YcU010YcF010YcU010Zi0110YQ
  110v7110abF110ZZE010ZZE013eR2G6013eS2GU013cQ3GYB013cQ3GYP110bJ013gG3G0013gG4G0013gG5G0013gG6G001
  0bdK010bdJ113cG3G0013cG3G0113cG4GZ3013cG4GZ3110XxM010Xh5010ZhT110YP110v6110XW4110XW5110bh6010XuI
  110aaL110XxN010XxN110XW7010XW8010bh8110Xh5110Xm3010Xh7010Zi2110YR110v8110XX3110XX4110bjM010Xl411
  0abJ110Xm4010Xm4110XX6010XX7010bjO110Xh7010ZZ2010Xk9010Xt2010Y-S010XrE010Xt3010Xv9010YdJ010YdK01
  0XlM110bb6110ay7013dS2G0113dS2G0110h7110gP110hJ110hP110i5023e21F00pL013g52GXQ013g52GXR013gE2GY30
  13eJ2GL113eJ2GL013eH3G0113eH3G0110O013gB1G0013g91GI013g52GXS013g52GXT013gT2G0013gS2G0013fS2GY201
  3g62G0013fF2GY5013g32GY5013g42Ga0013g32Ga1013g42Ga2013gD3G0013gQ3G0013fR3G0013fE3Ga8013fE3Ga9013
  fE3GaA013fE3GaB013gT3G0013gS3G0013gP3G0013g13GYB013g13GYC013g13Ga8013g13Ga9013g13GbF013g13GbG013
  g13GaA013g13GaB013gQ4G0013fO4GbI013g74G0013g24GaH013g24GcT013g24GcU013g24GcV013gQ5G0013fO5Gd0013
  fO5Gd1013g25Ge4013g25Ge5013g25Ge6013g25Ge7013fO6Ge8010YZF110YzU010Yg7023dI3GY80aS023dI3GY80aN010
  Yt4023dI3GY80b0110iP010YZQ110Y_7010Yg8013f91G9010YaH110Y-3010YgA010YbN010Yg1110YtC110Yu7023dI3GY
  80aQ023dI3GY80b1110Zr0110Zr4110Zr9110ZrB110ZrG010Yc2010Yg9110ZrI110ZrM110ZrN110ZtT110ZtV110Zu011
  0Zu1023dI3GY80aR110ZsO110ZsU110ZsV110Zt0110ZrA023dI3GY80aU023dI3GY80aV023dI3GY80b2023dI3GY80aT11
  0e9110YsP010YqA110Zr6110bdB110ZZ7110bdC110a_A110-9113eA1G1010ZbL010ZiU010ahT010ZuJ110k9110adN110
  fV110jB010XcO010XZL010eN110X6010Z3010jE010XwQ010XdL010XbJ010iH010XaV010Xa1010Xa2010rG010Y8010rO0
  10rR010rS010rJ010sA010sB010Xa3010XbK110YK010XZO110Y0110Zi1110Xr3010XpU010Xr3010Y-O010agE010ZZF01
  0XWM110tG110wQ110xI110xJ110xN110y0110y6110y7110y8110yE110yF110yL110yP110aYE123h71G03h81G0110lH01
  0YZS010XzL1106010j5110YZT110XzM010ad9010ad8133cI1G13e71G70c8033cI1G13e71G70ahI010YpS110boD110bpC
  010bh1010bh0110Zf0010Xh8010Zi4010Zf5110YS110v9110XXG110XXH110bkR010Zc4110ag6110ag7110abL110Zf101
  0Zf1110XXJ010XXK010bkT110Xh8010XxS010agB010XW6010boA010bh7110biG010Xm9010agG010XX5010bp4010bjN01
  0Xh9010ZiA110XXT110XXU110XY0010XY1110Xh9010XuM010XxO010Xl8010Xm5010ZZ1010Xk6010Xs6010Y-Q010XrD01
  0Xs7010Xv6010YdH010YdI010j8123cI1G03e71G7023cI1G03e71G7133cI1G03e21F03fP1GD013h02GO113h02GO013e3
  2G0123cI1G03e32G0010_K010jD010kB010m8010nO010oI010pB010q4010qS010lF010n2110XYI110-L013gR2G0013gC
  2G0013fS4GY2013fT7Gf7013fV3GYU013fV3GbR113cK3G0013cO3G0113cO3G0113cR3GYK113cK4GV113cK4G0113cR4Ga
  L113cR4GaM113cR5GbV010YsR123cO2G03cP2G0123cK3GV3cL3GX0123cK2G03cL2G0110XWT010XqE133cK2G03cL2G03g
  G2G0133cO2G03cP2G03gQ2G0110beG010YZR113f91G9110wC010YaM110Y_B010YgC113f92GX9010Yf0110Y_I010YhD11
  0aYR110-F110ZqL110ZqN113e83G0110ZtO110YtE110YtR110Yu8110Zr1010YfT110ZdN110YpJ010Yq0110g4110Yt101
  0YqE110ZrD110_H110XYF113e92GYN110ZjR113e93GaV110Zk0110_9110XWE113fD2GXQ113e93GYN113e94GaV113fD2G
  XS110-I110XYT110a-R113fD2G0113d31G3113d32GN110XY9110Xk7110XkA110XkD110-O110bkV110bl0110Zq1113d51
  G0113eC2GZB113eC3GZO113eC3Gb3113eC4Gc9113eC4GbA113eC5GdI113eC5GdJ113eC6GeN113eC6GeO113eC7GfB113e
  C7GfC113eC8Gg0113eC8Gg5113eC9GgE113e02G0113e03G0113e04G0113e05G0110n9113d32GM113fH2G0113g02G0113
  d33GYI113dL2G0110lN110wT110wR110wS110xM110xK110xL110m6113eA1G0110a_9113h82G0010XxB010bH110Xl3010
  ZcC010ZpH010YZ9010XeL010XaN010sO010e3110Zi5110Yd3010Yd3010dU010dV010XgI010XgC010XbF010t1010ZH010
  YT010bD010XZN110XM110ZhU110Xy8010XwT010Xy8010XeP010XaO010sP010XZP010Xa0010XfT010ZuH010XbL010sC01
  0XbM110ajA110Zs1110Zo1013bB1G0013cS3GXH013cS4GZF013cS4GZG013cV4GZP013cS4GaK013cS5Gb7013cV5GbB013
  d15GbB013cS5GbT013cS5GbU013d16GcP013cS6Gd7110XkL110dH010YlD110XkK110dG010YC113h71G0010Yh01108110
  Yh1010iF110Zo8110bZ2010ZpI010boV010boU010bn9010bn8010a-V010bnH010bnG010bnU010bnT113bR3GX6113b62G
  4113eO2G0113eQ2G6113b63GP113b63G0113bM3G0113bN3GX5113eO3G0113eV3GY9113f13GYA113b63GYJ113b64GYL11
  3b64GYM113b64G0113bM4G0113bN4GX5113f14GZ0113eE4GZO110YxI113eP4GaC113eV4GaF113eV4GaG113f22G0113b6
  4GaJ113b65GaN113b65G0113f45GaP113eT5G0113eE5GbA113cV5GZP113eP5GbK113eP5GbL113eV5GbO113f23GYN113f
  23G0113b65GbS113eP5Gc0113f46Gc2113cV6GbB113d16GbB113eP6Gd2113f24GYN113f24Gd4113f24G0113f24Gd6113
  eP6Gd8113eP6Gd9113d17GcP113eO7Ge9113f25Gd4113f25Gd6113eP7GeA110X-Q110ZaG110Xo3110Zg4010agI010XXI
  010bp6010bkS010agL010XXV010bpA010boB110Xa5110X-6110XlU110ZYR110ZfV110ZgL010ZgR010ZYU010Zf2010ZYV
  010Xk2010XrL010Y-1010XpA010XrM010XuB010Yd7010Yd8110XjR110ZZK010ZZ0010Xk3010Xs0010Y-M010XqF010Xs1
  010XuQ010YdB010YdC110YW1110YWE123h51G03h61G0013eB2G0113eB2G0013d93GYD113d93GYD013d93GYE113d93GYE
  013dA4GaH113dA4GaH013dA5GbQ113dA5GbQ123h02GO1Zu9013dT3GYB113dT3GYB013dU2GJ113dU2GJ013dU3GYF113dU
  3GYF013h01G2113h01G2013eF3G0113eF3G0110g9110_L110s7110s8110X-A110X_2110ZaF110ZaO110XnK110Xo9110Z
  g3110ZgB110Zs9110ZsA013d72GC113d72GC110ZoA110bbH110bjV110Xr9110XYJ013d73GXO113d73GXO013eI3G0113e
  I3G0123cQ3GYB3eU3Ga5123cQ3GYP3eU3Ga5110ZiT013cR2GB113cR2GB013dK2GK113dK2GK013d23GS013dQ3G0113dQ3
  G0013cK3G0013cR3GXK113cR3GXK013cR3GXL113cR3GXL013cU3GXM113cU3GXM013d73GXN113d73GXN013dN3G0113dN3
  G0013d23GY7013d63GYF113d63GYF013d63GYG113d63GYG013d23GYH013cR3GYK013cK4GV013cK4G0013cO4G0113cO4G
  0013cR4GZJ113cR4GZJ013d24GZK013cU4GZL113cU4GZL013d24GZM013d24GZN013d04GZL113d04GZL013d74GZQ113d7
  4GZQ013dP4GZT113dP4GZT013d64GaI113d64GaI013cR4GaL013cR4GaM013d05Gb9113d05Gb9013cR5GbV110Q010YZG1
  10Zd3110bZU110XrP110bhF110XeQ010YkV010Yl0010Yt3110XWU110zO110XbR110v4110vK110w3110w4123cN3GYQ3dB
  3GQ113cN3GY6010YaI010YaN013f92GX9010YbB123cI1G03f91G9113e71G0110YYD113dG2G0110fE113f92GXC010YZP1
  10ae6110XuC110Xf3110ZjC110fK113f93GZ4113f93GZ8110Xf4110C110zF110zG110X9110fM113f94GaS113f94GaU01
  0Yb4110Y-9010YgE010Yb9110Y_H010YgF110zH110XC110XD113f95Gc8110YtT110Yu2010Yf3110Y_K010YhE110zM110
  XF110YuF110Yu9110aZK110aa1110aa2110aaB110XpL110Xl1110XbA110XbB110-C110YlL110ZW8110ZbE110ZhR110XP
  110XS110XT110XV110fO110fQ110fH010YnD113e43GYS113e44GZP113e44GaR113e45Gc4113e45GbB113e46GdB113e46
  GcP113e47GeB113e47GeC113e48Gf8113e48Gf9113e49GfS113e49GfT113e4AGgC010Yq1010Yq5110YtD010YqJ110ZrH
  110ZrJ110ZrQ110ZrR110Zt2110Zu2110Yt5110bWB110ajF110bWC110ajG110a_B110biP110bbP110ayR010ahV110_I1
  13e94GcH110ZkC113e95GdR110Zl9110bb2113gI1G5113gI2GYN113gI3GaV113gI4GcH113gI5GdR110blU113e92G5113
  e93GZD113e94Gb4113e95GcH113e95GcJ113e96GdR113e96Ge1113e97Gf6110bb3110XYG110bbN010aj0110bfJ110kH1
  23bO1G50bXC110XWF110-4110bbO113cL3G0113cP3G0110ajN113cL4GX0113cL4G0113cP4G0113e97GfR110zN010YvP1
  10XYU110ZuM110u2110azB110bl3110ZhM110XYA110ZbK110ZqC110bfA110g8110_E110Xf2110beU110dR113hG2G0013
  f02GaE113f02GaE113hK2G0110YsI110ZcE110be3113gJ3G0110ak7113gJ4G0113bO2GX3110gE110gF113gJ5G0013hH2
  GaE113hH2GaE110aZ3110aZ1110aZ2110aZJ110aZH110aZI110boE110boF010XkM110ZcM010XkO110wE110g5110gC110
  ZvS113h32G0010Yw7110ZnD010Yw8110awK010d6010dA010Xl7010XlA010s2010s3010ZhO010ZhP010ZgI010ZgK110ah
  6113cT1G0110XeT110XeU110aiU110bf7113h52G0113h62G0110Yx8110xC113e63GYR113hE2G0110YuL110YuM113hL2G
  0113h12G0113h22G0113hM2G0110Xb8110Xb9110XzQ110aZG110Za7110YxR110YxS110Xn5110ZfR110ZWA110ZWB110az
  I113bE1G0110YY3110XpJ015113b50G0110E110c7110XxI110X_T010XbU010kG010XbD010Xa7010Xa8010rH010Y9010r
  P010rT010rU010rK010sD010sE010Xa9010XbV010Xc2010kK010XbE010XaA010XaB010rI010YA010rQ010rV010s0010r
  L010sG010sH010XaC010Xc3113gV2G0023gV2G01XeG023gV2G01rM013gV2G0023gV2G01XdJ023gV2G01YvN023gV2G01X
  aJ123gV2G014023gV2G01iA023gV2G01azM023gV2G01ZiF023gV2G01XaK023gV2G01Zh4123gV2G01iA023gV2G01azN02
  3gV2G01azO023gV2G01ah0123gV2G01c2123gV2G01uE023gV2G01iB023gV2G01azP023gV2G01V023gV2G01azQ023gV2G
  01ah1023gV2G01ah2023gV2G01azR023gV2G01f9023gV2G01fR023gV2G01b4123gV2G01cH023gV2G01ZbH023gV2G01sM
  023gV2G01ZiG023gV2G01Z0023gV2G01iC023gV2G01bd0123gV2G01-7123gV2G01iD123gV2G01acL123gV2G01acM123g
  V2G01ZpQ123gV2G01YXL123gV2G01bd1023gV2G01YXL023gV2G01YXM123gV2G01Zu9023gV2G01XeH023gV2G01s1023gV
  2G01XaL023gV2G01bd2023gV2G01bd3023gV2G01bd4013cD2G0113cD2G0013cD3GXK113cD3GXK013cC3GYT113cC3GYT0
  13cC4GdC113cC4GdC113b51G0113b52G0110t7110t8110XrQ110d5110d8110Xs4110Xp7110XmB110YoV110Yp0110Yp61
  10tL110Yp2110tN010XfF010rN010Xe4010XaQ1105010bc0010XaR010bc1010az8010bc2010sR010Z7010XfG010s4010
  XaS110XxA110XuR110XlS110YW3110YWA110YWF110YdE110YdG110Yh8110dS110Xv4010YZA010Xd0010XZQ010f1110Y2
  010Z6010lG010Xy9010XyA0103010XdS010YaD010YaE010YaG010Yb3010XwP0102010XfL010XfI010XaU010sT010ZA01
  0XhC010XhB010Xc5010tD010ZP010XgO010XgE010XbH010t3010ZT010XhT010XhJ010XcG010tQ010a5010Xi0010XhM01
  0XcJ010tT010a8010XcB010XZM010eV110YL110Y7010ZM010kO010dJ110Zi8110YWG010YWI010YWG010XuV010bN010Xd
  2010XfC010XZV010f4110Y6010n3010YlN010YgV010Xg9010XcP010eP010Z4010kC010e6010XwU010bE010XdN010XdO0
  10XhO010XcK010XZS010eU110Y4010tU010ZU010kN110Zi6110YlQ010YlG010YlQ010YZV010bT010Xf1010XdU010XZU0
  10ZG010Yc0010bI010Xf7010XdT010eQ010ZE010kI010YbR010bG010Xf6010Xe1010XZT010f2110Y5010ZO010m9010eD
  110Zi7110Yh3010Yh4010Yh3010YcV010bR010XfB010XcC010eR010mD010Xw6010Xd6010Xg6010eS010aD010kL010YlE
  010c1010Xh2010XfN010f3010a0010oM010eG010YjF010bU010XgJ010XfP010f6010a1010pF010eH010YkE010bV010Xg
  L010Xd5010f5010Z9010nP010eE010YWL010bF010Xe5010Xe6010f7010ZR010nT010eF010Yf6010bS010XfJ010XfQ010
  f8010a2010r6010eI010YkG010c0010XgM010lM010iK010mH010jP010kT010o2010qC010oR010pK010n8010XbP010t60
  10XZ8010XZ9010XZB010tE010ZZD010XWK010XWL010biG010XWN010XgH010acK010Zp3010Xc0010Zi9010ZcF010tF010
  ZpN010sF010Xc1010bo2010bm1010bm2010XeM010Z2010YXP010YXQ010YB010beD010beE110ajU110ZrV110ZnV110Zs2
  110Zo2110XwG110d7110dB110XrN110Xr0110XuS110YgR110YlH010Xg3010Xg2010Xb2010sV010ZD110Zj2010Xg1010X
  g0010Xb0010Zj4010Xb1010Zj5010sU010ZC010YfG010Xh1010Xh0010XbQ010tB010ZL133h71G03h81G00Yx8133h71G0
  3h81G00Za7113h81G0010ZbN010YYC010YD110XtN110Xl0110-B110YlK110ZW7110Zb2110ZhQ010YZB010YG010Xf0010
  XcA010Xd1010Xc6010XfK010Xd3010XeC010XbT010YW2010XdH010Xd7010Xe9010XeD010XcD010XeA010XdA010XeB110
  vH010YF010YZC010YH010YaF010YI010XhQ010XhP010XcL010ZqI010XcQ010ZqJ010tV010ZV010Yo8110X8110XA110XB
  110XE110XO110XQ110XR110XU010XgS010XgR010XbN010t9010ZJ010XgU010XgT010XbO010tA010ZK010Xi2010Xi1010
  XcM010u0010a9010YoC010XfU010ZB010YfD010XcV010XcU010XaE010sJ010YO010XuL110YW4010Xi7010Xi6010Xd401
  0u4010aB010Yp4010XiO010XiN010Xd8010u5010aC010Yp7010XiQ010XiP010Xd9010u6010aE010Yp8010XiS010XiR01
  0XdB010u7010aF010Yp9010XiU010XiT010XdC010u8010aG010YpA010Xj1010Xj0010XdE010uA010aI010YpB010Xj301
  0Xj2010XdF010uB010aJ010YpC010Xj5010Xj4010XdG010uC010aK010YpD010Xj9010Xj8010XdI010uD010aL010YpE11
  0bO113c22GB013c22GB010aiD110tH010ZpP110tK110tM113c23GXE013c23GXE010bhA010bhB113c91G0013c91G0110b
  eN110YwS013bR3GX6010X7113c14GZ9013c14GZ9110xH113cE2GB013cE2GB113cE5GdH013cE5GdH113cE6GeI013cE6Ge
  I110bhD110XyB110biN110ZZM110bjT110XmG110bl1110ZfA113bK1G0013bK1G0013b62G4113c42G0013c42G0113c52G
  0013c52G0113c62G0013c62G0113c72G0013c72G0013eO2G0013eQ2G6113bL2G0013bL2G0013b63GP013b63G0113cA3F
  R013cA3FR113bD3GT013bD3GT113bD3G0013bD3G0113c33GX2013c33GX2013bM3G0013bN3GX5113bS3GX7013bS3GX711
  3bU3GX8013bU3GX8113c03GXD013c03GXD113c23GXF013c23GXF113c43GXG013c43GXG113c53GXG013c53GXG113c73G0
  013c73G0113c83G0013c83G0013eO3G0013eV3GY9013f13GYA013b63GYJ013b64GYL013b64GYM013b64G0113bD4GYO01
  3bD4GYO113bD4G0013bD4G0113bD4GYL013bD4GYL113bD4GT013bD4GT013bM4G0013bN4GX5013f14GZ0113bR4GZ1013b
  R4GZ1113cB2G0013cB2G0113bU4GZ2013bU4GZ2113cF2GB013cF2GB113c24GZA013c24GZA113cS4GXH013cS4GXH013eE
  4GZO013eP4GaC013eV4GaF013eV4GaG013f22G0013b64GaJ013b65GaN013b65G0013f45GaP113bD5GaN013bD5GaN113b
  D5GYO013bD5GYO113bD5G0013bD5G0013eT5G0113bD5GYL013bD5GYL113bQ2G0013bQ2G0113cB3G0013cB3G0113c15GZ
  9013c15GZ9113cS5GZF013cS5GZF113cS5GZG013cS5GZG013eE5GbA013cV5GZP110YxM013eP5GbK013eP5GbL013eV5Gb
  O013f23GYN013f23G0013b65GbS113cS5GaK013cS5GaK013eP5Gc0013f46Gc2113bD6GaN013bD6GaN113bT6Gc7013bT6
  Gc7113cS6Gb7013cS6Gb7013cV6GbB013d16GbB013eP6Gd2013f24GYN013f24Gd4013f24G0013f24Gd6113cS6GbT013c
  S6GbT113cS6GbU013cS6GbU013eP6Gd8013eP6Gd9113bT7GdE013bT7GdE113bT7GdF013bT7GdF113bT7GdG013bT7GdG0
  13d17GcP013eO7Ge9013f25Gd4013f25Gd6113cS7Gd7013cS7Gd7013eP7GeA113bT8GeF013bT8GeF113bT8GeG013bT8G
  eG113bT8GeH013bT8GeH113bT9GfA013bT9GfA110X_D110ZaP110XoK110ZgC010YvR010YzR010YzS013bV5Gc5113bV5G
  c5013bV5Gc6113bV5Gc6013bV6GdD113bV6GdD013bV7GeD113bV7GeD013bV7GeE113bV7GeE010Y_N010ZbU010Y-P010X
  s5010Xv0010Y-T010YxQ010ZYN010Y-R010XkT010XlB010Y-V010ZcB010Zp8010Y_0010ZbG010ZiD010Y_1010Y_2010Z
  iQ110YxC110Xa6110X-9110X-T110ZaD110XlV110XnJ110ZYS110Zg2110Zg7110ZgM010XwR010XlJ110Xx9110XaG110X
  v3110XuP110XlQ110YW9110YdD110YdF010ZZ3010XkC010Xt4010Y-U010XrF010Xt5010XvB010YdL010YdM110Yh7010Z
  bT010XkP010XxE010ZXL010XuE010XxF010YaO010YlB010YlC010ZbR010XYK010ZhM010beU023fP1GD0bWH123cI1G00b
  iP023cI1G00XYK123e21F03fP1GD010ajT123cI1G10dL023h02GO0ZcA133cI1G03fP1GD3e32G0133cI1G13gE1G03e32G
  X1010azI110_U110XjQ110Xy4110XjS110XmC110XjT110Zf8110XjU110Zs7110s9110X_G110ZaS110XoN110ZgF110ZsB
  110XrG110Xk0110XrK023hD2GO1ZZ9123hD2GO1YsM113hD2GO123hD2GO1Xk1123hD2GO1g3023hD2GO1YYE123hD2GO1be
  J123hD2GO1aeN123hD2GO1aeO123hD2GO1YzQ123hD2GO1aaK023hD2GO1XrH023hD2GO1XwL023hD2GO1YfI023hD2GO1Xr
  I023hD2GO1XwM023hD2GO1Yg2023hD2GO1YrA023hD2GO1YsN110XpM110Xk5110Xq6110d9110Xk8110dC110tI110XkB11
  0tJ110z1110XkE110z2010ZcK110XwJ010YY8010XwK010YY9010YfF010Yn7010Yn8010ZeP110XrR010YbO010Xy2010Yb
  P010Yg3010YnS010YnT010ZeT110Xr2010YcB010X_U010YcC010YgJ010YnU010YnV010ZeV110XuU010YcR010YW0010Yc
  S010YgN010Yo0010Yo1010Zf7110YgT010Yd1010YW8010Yd2010YgU010Yo2010Yo3010ZgN110YlJ010Yd5010YWD010Yd
  6010Yh2010Yo5010Yo6110jI110bbI110bbJ010ZiV010YkH010YfC010YkI010Yn6010YpF010YpG110bbF110biK110biL
  110bjQ110bjR110bbG110bbK110XXB110XrC123e71G70bW5010YkN010YkO010YsS110Zd7010Yl1010Yl2010Yt7010Yt8
  110XrV110bZV110ba0023dJ2G80aS023d82G00aS023dK2G80aS023dJ2G80aN023d82G00aN023dK2G80aN110ZdK010Yl8
  010Yl9010YtO010YtP110bZF023dJ2G80b0023d82G00b0023dK2G80b0010ZuO110Zj1123f91G93fP1GF123cN3GYQ3dB3
  GY6123cN3GY63dB3GY6110Y-5010YaJ110Y-6010Yt6123cL2G03gG2G0123cP2G03gQ2G0123fP1GF3f92GX9110Y-C010Y
  b7110Y-D010YtN023dJ2G80aQ023d82G00aQ110bZG023dK2G80aQ110ba1133cI1G03f91G93fP1GF110XWD023dE2GYT0m
  J010aaM110aYD023dJ2G80b1023d82G00b1023dK2G80b1123cI1G03e71G0023cI1G03e71G0013e71G0110YZ4010adQ11
  3h61G0013f92GXC010YqB113eM1GXI010YqD010ZjN110bX3010YkQ010YfQ010YkR010YnB010YpK010YpL123cO3G03e83
  G0023cO3G03e83G0013e83G0013f93GZ4013f93GZ8113cM3GY6010YqF010Yr2010YqI013f94GaS013f94GaU010YqK110
  Y-A110Y-F010YqM013f95Gc8010YqO010YbI110Y-G010YgG110Y-H110Y-I110Y-K010YqP010YbK110Y_J010YgH110zI1
  10zK110Yu3010YqQ010Yc8110Y-L010YgD110Yu4010YqR010Yf5110Y_L010YhF010Yr3010Yr4133cI1G03g91G03e32G0
  010Yr5110YuG010Yr6023dJ2G80aR023d82G00aR023dK2G80aR010YqU010YqV010Yr0110YuA010Yr1110wB010ZqF113h
  51G0010Yn9010YkL010YnA010YoE010Yq2010Yq3110YuB010YZH110Y-0010Xx6010Xx7010YfO010XrJ010YsU010YsV11
  3e53GYR110xV110xU023cO2G03cP2G0023cK3GV3cL3GX0023cK2G03cL2G0110aYQ110aZR110aZQ023dJ2G80aU023d82G
  00aU023dK2G80aU023dJ2G80aV023d82G00aV023dK2G80aV023dJ2G80b2023d82G00b2023dK2G80b2110jJ110ZjO023c
  R2GB3cR3GYK123cR2GB3cR3GYK113eM2GZH023cR3GXH3cR4GaK123cR3GXH3cR4GaK023cR3GXK3cR4GaL123cR3GXK3cR4
  GaL023cR3GXL3cR4GaM123cR3GXL3cR4GaM010YtG110ZdD010YnE110ZdE010YtJ023cR4GZF3cR5GbT123cR4GZF3cR5Gb
  T023cR4GZG3cR5GbU123cR4GZG3cR5GbU023cR4GZJ3cR5GbV123cR4GZJ3cR5GbV110ZdS010YnK110ZdT010YtV110Ze30
  10YnN110Ze4010Yu1023cR5Gb73cR6Gd7123cR5Gb73cR6Gd7023dE2GYT0qE110kD110ZZB110mA023dJ2G80aT023d82G0
  0aT023dK2G80aT110nQ110oJ110pC110q5110qT110lI110n4110ZdJ110ZdO110ZdR110Ze1110Ze8110Ze9110ZeA110Ze
  B110ZeE110ZeF110ZeG110ZeJ110ZeK110ZeL110ZeM013hD1G0113hD1G0123hD1G01YpJ013hD2GZC113hD2GZC123hD2G
  ZC1YpO110YpN010bhJ013e43GYS013e44GZP013e44GaR013e45Gc4013e45GbB013e46GdB013e46GcP013e47GeB013e47
  GeC013e48Gf8013e48Gf9013e49GfS013e49GfT013e4AGgC110YpQ110YpP110Yp1110Yp3013e12GB113e12GB013hD2G0
  113hD2G0013e13GXK113e13GXK013hD3GZC113hD3GZC010Xx4010Xx5010Xu5010YrD110Y-7010XxC010XxD010XuD010Y
  tA010YtB010Yq7110YtS010YqN110ZdH010Yl6010Yl7010YtK010YtL123h02GO1aaK010YpH110bK110YsT110YzV010Yf
  M010YfN010Xx8110x2110ZvT110Y-4010YgB010XxG110yA110yC110yN110yO110bM110aZ7110ab0110aa4110aa6110aa
  D110aaE110bP010Yq6010YqG110Y-8010YaK010Yb5110YtH010YqL110Y-B010Yb6110Y-E010Yb8010YbA110Y-J010YbJ
  010YbL110Zd8010YnC110Zd9110ZdC110ZdF010YnF110ZdG110ZdI010YnG110ZdL010YnH110ZdM010YnI110ZdP010YnJ
  110ZdQ110ZdU010YnL110ZdV110Ze0010YnM110Ze2110Ze5010YnO110Ze6110Ze7010YnP110ZeC010YnQ110ZeD110ZeH
  010YnR110ZeI010bY8010bgB010ah7010YzP010ZXC110bWD110ajH110bb7110ay8110bb8110ay9110j4110bgD110bgE1
  10bgH110bgK110bbQ110ayS110bbR110ayT110k8110bi4110bi5110bi8110biB110m5110bjA110bjB110bjE110bjH110
  nM110bkG110bkH110bkK110bkN110oG110blK110blL110blO110blR110p9110q2110qQ110lC110n0013eA1G1113e91G5
  110ZjG110ZXF010Y-2110ZXH110ZXI113e92GZD110ZjS110ZXJ110ZXO110ZXP110Zk1110ZXQ110Zk2110ZXR110Zk9110
  ZXS110ZkA110ZXT110ZY0110ZkD110ZY1110ZkE110ZY2110ZkV110ZY3110Zl0110ZY4110Zl7110ZY5110Zl8110ZY6110
  ZY9110ZlA110ZYA110ZlV110ZYB110Zm0110ZYC110ZmF110ZYD110ZmT110ZYG010Zc1010ZYP010Xv2010XlD010ZoI010
  ZiC123fP1GD3gK1GE123fP1GD0_9110ZXG110_G110ZXK110aA110ZXM110ZXU110ZXV110ZY7110ZY8110ZYE110ZYF110Z
  YH110bb9110ayA123fP1GD0bWH013fD2GXQ113gI2G5113gI3GYN113gI4GaV113gI5GcH113gI6GdR110beA110beB110XW
  S110bbS110ayU010ZcH110be5110ahR010ZcL010ZcP010aj1010ZcU010Zd1013fD2GXS110bg5010ZgQ010ZgV010ZgO01
  0ZgT010Zh1010Zh2013fD2G0110akB110Zk3110Zk4110Zk5110Zk6110Zk7110Zk8110ZkF110ZkG110ZkH110ZkI110ZkJ
  110ZkK110ZkL110ZkM110ZkN110ZkO110ZkP110ZkQ110ZkR110ZkS110ZkT110ZkU110Zl1110Zl2110Zl3110Zl4110Zl5
  110Zl6110ZlB110ZlC110ZlD110ZlE110ZlF110ZlG110ZlH110ZlI110ZlJ110ZlK110ZlL110ZlM110ZlN110ZlO110ZlP
  110ZlQ110ZlR110ZlS110ZlT110ZlU110Zm1110Zm2110Zm3110Zm4110Zm5110Zm6110Zm7110Zm8110Zm9110ZmA110ZmB
  110ZmC110ZmD110ZmE113e96GeV110ZmG110ZmH110ZmI110ZmJ110ZmK110ZmL110ZmM110ZmN110ZmO110ZmP110ZmQ110
  ZmR110ZmS110ZmU110ZmV110Zn0110Zn1110Zn2110Zn3110Zn4110Zn5110Zn6110Zn7110Zn8110Zn9110ZnA110ZnB110
  XXO010bdF010YuI110YZU110_Q110_R110_S113fA2G0113fB2G0113fC2G0010XrS010Xy5110XzN010Yw9010Y_Q110Xr6
  010XkQ010XmD110Yd0010YyT010Zb0110Yd4110YlR110Yh5110YWH010bm4010ZZ4110Zh5110ZuE110ZpV110eK110ZuN1
  10Zq5113f71GA110Zq7110ZuS110Zq9010Zj8110beV110ZvA110ZqG110ZbQ110ZbR113gK1GE113gK2GXU110bWG110jK1
  13gN2GZU013f02GaD113f02GaD113gN3GbD113gN3GbE113gN4GcS113e97GeV113e98GfR110bpF110ba2110bbA110bbT1
  10bbU110bbV110abQ110ZtP110abV110ZtU110bbL110abN110Zu5110abR110Zu6110XYS110ac8110Zu7123e21F00n911
  0acA110Zu8110YXT110Yr9110ZuT110-8110Xa4110YYP110Zv9110ZvB110wM113f82GA113eN2G0110ZvH110Xi3110s61
  13fN1G0110bWJ123hC2G01ZqC113hC2G0123hC2G01fV110Zw2110Zw3110xG110ae8110ajT110ajV110Zw9110ZwD110Xi
  4113gM2G0110ZwM123h42G01bfA113h42G0123h42G01g8110ZwQ110ZwT110Xi5110Zx8123hK2G01XjP110ZxG110ZxH11
  0ZxL110ZyM013hH2GaD113hH2GaD110ZyR110ZyV110Zz2110Z-R110Z-V110Z_0110aWS110aX2110aXU110XpE110-E110
  XyO110XpR110Xi8110XzE110ab4110Xi9110ab8110XiA110abB110abC110abD110abE110-H110XlP110XiB110Za2110X
  iC110XiD110-K110ZYQ110XiE110XmT110XiF110XiG110-N110ZfL110XiH110ZfM110XiI110XiJ110-Q110ZgJ110XiK1
  10Zs8110XiL110XiM110YrK110abU110ac0110XY8110ac2110ac3110ac4110ac5110ac6110ac7123h92G01lQ110abS11
  0ac1110acB110acC110Xc8110ahN110be7123e21F00jQ110YwV110Zv1110bf2110aiT110ZjE113bO2GX4113gH1GXP123
  d31G30zD110Yx9110bWR110x7113e92GX4113gI2GX4123d31G30_F123d32GN0zE113fM2G0113hJ2G0123hJ2G01_7123h
  J2G01ZvQ113gL2G0110YrF110xS110bXP110y2113e93Gb1113e93GYU113e93Gb6113gN3GbC113gI3Gb1113gI3GYU123d
  32GN0_M110XW0113g83GcA113gO4GcB113e94GcD113e94GcF113e94GcL113e94GcN113gN4GcQ113gI4GcD113gI4GcF11
  3gN4GcR110yM113e95GdL113e95GdP113gO5GdQ113e95GdT113e95GdV113gI5GdL113gI5GdP113gN5Ge3113gO6GeJ113
  gO6GeL113gO6GeM113e96GeR113e96GeU113e96Gf1113e96Gf5113gI6GeR113gI6GeU113gO7GfE113gO7GfF113e97GfH
  113e97GfK113e97GfN113e97GfQ113gI7GfH113gO8GfU113gO8GfV113e98Gg3113e98Gg8113e98GgB113e99GgH110YoG
  110azD110XyF110aaP110aYT123d31G30zS110XzR110aZF123d31G30XWR123d32GN0zT110YrM110aZO110aa0123d32GN
  0XWV110aaC110ZZQ110abH110Za8110XmK110abK110Xn6110ZfE110abM110ZfS110ZcG110bm9123d31G30-5123d31G30
  XYR123d32GN0-6123d32GN0XYV110ad0110ad1110vM110vO110vP110ZbM110vR110vS110wD110wG110wF110wI110wJ11
  3f72GXB113eL2GXJ110YrQ110Yx7113gK2GY1013hA2G0123hA2G01adL013hB2G0123hB2G01adM110ZjK123h92G01iP11
  0x9110x8113h62GX0123h32G01Zj3113f83GZ6113eL3GZI113gK3Ga4113hC1G0123hC1G03hJ1G0110_O123hG2G01_E11
  0YxK110ZwL113dO3G0110kJ113hF2Gb8123hF2Gb81gC110ZrC013f03GbM113f03GbM013f03GbN113f03GbN110ZhB110Z
  hC110XW3013hH2Gd3123hH2Gd31aeA113hH2Gd3113hI2GYN110ZhH110ZhI113g85GeK110ZhJ110ZhK110aeU110aeV110
  aYC110bgU110aYF110aYG110aYU110aYV110XY2110XzP110X-U110awL110XWJ110afB110afC110Za6110ZaJ110XX2110
  afJ110afK110XYH110Xn4110Xo6110XXF110afR110afS110ZfQ110Zg8110XXS110ag3110ag4110ag8110ag9110ZcA110
  XYE123e21F00lN110XZ1110XZ4110XZ5110XZ6110XZ7110XZD110XZF110dM110a-3110a-4110vE110a-5110vF110ZuG0
  10be3010be0110_5110ai2110ZcJ110YY7110c9110aiB110adK110Zv2110ZqD110g7113b82G0110ZcQ110Zv4113b91G5
  110bf5113bA1G0110ZbP010aj4010bf8110YZ3110ZcS110ZcT110YZ5123h52G01YfE123h62G01YY6110cA110ZqK110YZ
  D110Zd2123h72G01eM123h82G01e0110wU110-A110ae5113bF2GT110ZvU113b92GYN113b83G0110Zd5110ajP010bX001
  0bX1110ZbS113bO3GYU113bO3GYV123hE2G01cT113e92GX3113eN3G0110YxE110YuP110YxF110YuQ110YuT110YxG110Y
  uU110Yv1110YxH110Yv2110xO123hL2G01ak8110YrG110xT110XuF113b84G0123h12G01Zh9010bXS010bXT123h22G01Z
  dA110bXC110bY7113e93Gb0113eD3GZO113e93Gb2113e93GYV113e93Gb5113hF2GXJ123hM2G01zB113fQ3G0110YrH110
  yB110YrI110yD113b85G0113e94GcC113e94GcE113e94GcG113eD4GbA113eD4Gc9113e94GcI113e94GcK113e94GcM113
  e94GcO123hI2Gd51YsE113hI2Gd5113eK6GdA113e95GdK113e95GdM113e95GdN113e95GdO113eD5GdI113eD5GdJ113e9
  5GdS113e95GdU113e95Ge0113e95Ge2113e96GeP113e96GeQ113e96GeS113e96GeT113eD6GeN113eD6GeO113e96Gf011
  3e96Gf2113e96Gf3113e96Gf4113e97GfD113e97GfG113e97GfI113e97GfJ113eD7GfB113e97GfL113e97GfM113e97Gf
  O113e97GfP113e98Gg1113e98Gg2113e98Gg4113e98Gg6113e98Gg7113e98Gg9113e98GgA113e99GgD113e99GgF113e9
  9GgG113e99GgI113e9AGgJ013gJ3G0123h92G01jT013gJ4G0013gJ5G0010boF010bpC110ZnC110XpK110cD110Zs0110b
  ZE110af5110awI110gV110Xq2110ZnE110ZnF110Xq3110cE110Xq5110ZnG110z3110XWA110XWB110-G110af7110z4110
  YrN110aZP110Xl2110YrO110aa5110YrP110aa7110bYS110cF110Zo0110bb1110bYT110bYU110cG110z5110-J110Yz61
  10YxV110Yz7110Yy0110Yy3110Yz8110Yy4110Yy7110Yz9110Yy8110z6110-D110bbE110z7110XX8110XX9110-M110z8
  110YlM110bbM110z9110-P110YzG110ZWE110YzH110ZWF110ZWI110YzI110ZWJ110ZWM110YzJ110ZWN110zA110ZW9110
  -R110ZbF110ZhS110dT110bc4110ZsI110XN123h72G01f0110XYN123e21F00pL110fT110vG110ZuK110be6110ad7110Z
  q6110fI110w1110w2110YrC110XeR110XeS110wA110w9110Zv5110bf3113bI1G5110YZ2110wH113f72GXA110gO113gK2
  GY0110Yw0110Yw1110Yw3110Yw4110Yw5110Yw6110x5110x4110aj4110x6110xA110xB113bI2GYN110xE110xD113bJ2G
  0113f83GZ5113f73GZ7110YuN110YuO110YuR110YuS110YuV110Yv0113gK3Ga3110Xb3110Xb4113fJ2GX4113fL2G0113
  gK3Ga6113b93GaO110y4110y3113bI3GaQ113bI3GaO110gG113f84GaT113gK4GbH113fK3GYU113f32GX3113b94Gc1113
  bI4Gc3113bI4Gc1110_K110XW2113hI2G0110YrL110Xb6110Xb7110aYP110aYO110XzT110XzU110X-2110X-3110X-411
  0X-5110aZA110aZ9110aZB110X-B110X-C110X-D110X-E110X-H110X-I110X-L110X-M110XdV110Xe0110ZW0110ZW111
  0ZW3110ZW4110ZW5110ZW6110YxT110YxU110Yy1110Yy2110Yy5110Yy6110Xf9110XfA110Xn8110Xn9110XnD110XnE11
  0XnF110XnG110XnL110XnM110XnN110XnO110XnR110XnS110XnV110Xo0110Xg7110Xg8110Zb7110Zb8110ZbA110ZbB11
  0ZbC110ZbD110ZWC110ZWD110ZWG110ZWH110ZWK110ZWL110XgA110XgB110Xh3110Xh4110Xe2110Xe3110axJ110abP11
  0bpD110abT110bpG010bdO110be1110ZiS110a-C114110g2110iL110be4110ZcI110a-I110be9110j9110a-S110a-U11
  0g6110jD110YYK110YwU110adJ110Y_6110YwG110beQ110zD110ZcN110bf1110a_J110a_K110Zv6110ZcR110_D110bf4
  113bH2G0110aj2110cN110cO110jH110eO110XeV110bfD110Zj8113cT2G0110adU110_F110YvV110Yw2110zE110XcR11
  0bfG110Zd4113b73G0110ZvV113bG3G0110bf8110ajQ113bH3G0110ajS113bE3G0110A110Zh8110YuH110_M110_N110_
  P113bH4G0110ZhA110Yv3110Yv4110Yv5110Yv6110Yv7110Yv8110Yv9110YvA110YvB110YvC110_V113bH5G0110akU11
  0bYF110XW1110ZhG110YvD110YvE110YvF110YvG110YvH110YvI110YvJ110YvK110YvL110YvM110zJ110zL110gJ110gK
  110gL110gM110kB110XuN110XyE110XyJ110XuO110zP110v2110v3110zQ110XWC110XzS110XzV110zR110Yq8110XWG11
  0XWH110X_3110X_4110X_5110X_6110X_7110X_8110X_9110X_A110X_B110X_C110XWI110X_H110X_I110X_J110X_K11
  0X_L110X_M110X_N110X_O110X_P110X_Q110YgK110ZZP110ZZU110ZYK110zS110Xr4110Xr5110XbS110XWR110Y_V110
  ZW2110zT110XWV110XX0110Yy9110YyA110YyB110YyC110YyD110YyE110YyF110YyG110YyH110YyI110XX1110YyJ110Y
  yK110YyL110YyM110YyN110YyO110YyP110YyQ110YyR110YyS110YcT110XmJ110XmO110Xl9110zU110XrA110XrB110v5
  110XXA110Xn7110XnA110zV110XXC110XXD110XoA110XoB110XoC110XoD110XoE110XoF110XoG110XoH110XoI110XoJ1
  10XXE110XoO110XoP110XoQ110XoR110XoS110XoT110XoU110XoV110Xp0110Xp1110Yo4110ZfD110ZfI110Zc6110-011
  0Zo4110Zo5110XXN110aaI110aaJ110-1110XXP110XXQ110ZWO110ZWP110ZWQ110ZWR110ZWS110ZWT110ZWU110ZWV110
  ZX0110ZX1110XXR110ZX2110ZX3110ZX4110ZX5110ZX6110ZX7110ZX8110ZX9110ZXA110ZXB110Zb6110Zb9010bh5110
  Zo9110bZ3110ZgP110bZ9110bhG110-2110ZgS110bZL110ZgU110XY7110-3110Zh0110XYB110XYC110XYD110h2110jQ1
  10h3110h4110h5110m8010biF110biQ110hE110hF110hG110hH110nO010bjL110bk0110hK110hL110hM110hN110oI010
  bkQ110bl4110hQ110hR110hS110hT110pB110blV110i0110i1110i2110i3110q4110i6110i7110i8110i9110qS110bm7
  110gR110kU110bm8110gS110gT110gU110lF110agC110ZtS110-5110bmC110bc8110XYQ110XYR110-6110XYV110XZ011
  0XZ2110XZ3110h8110mI110h9110hA110hB110n2110agF110o3110agH110oS110agJ110pL110qD110bcO110agM110ZpM
  110acF110boM110acI110agT"

/-- The sets of tokens that share a list of actions, as packed numbers. -/
def groups : String :=
  "tR2Z7XQ1XC1YJ1P181Z21Z3112Z011XE1YD1B1YB2YE11XI1XG1XJFXM11111111111111D4G9XB3211132231XK1Z82ZD11
  71ZD1ZN1K1YI1C141XH24YC1YH1ZE1ZS1Y82Y911XF3YK532TXT1X71A2YL22YM2191YC1S1XB1XL1YG1ZM1D1ZP1Y61aB1Y
  71a91YR1b01aD1XD3CEa42ZQ12KY95ZH1111N12348U4Y4111211111111111J33CZ61112111111111115EY01F11J5C1Da
  311ZHXT1221134211121114311111112341131P11E1I111112111211111111111171H0B2751IX7A311155191aP1a11R1
  Y51aSL4G9X9111111111111122311E1aM1aO9YUX511111I11Q1aU3ZU11X19211C11395115J121251222121417X321I1Z
  O2C1T931C14E25J121251222121417X32H24ZJ111X09211C11395115J121251222121417X33I131ZT1YT16S931C14E25
  J121251222121417X3J23YB2D4PEXCX92Qa46E6XQ1F1B4G9XB61132232YB21H1I1aHF9GJ25X12213417X3L1a21aGC4G9
  XB321115239B1EIV2Y0H5N9GJ25J121251222121417X3LN45B9X911111111111132311XFA8311DIVY2G17P1DXCX9X11M
  3348U4Y4111211111111111O45B9X9111111111111122311XF28ZK984851DXCX9X22DaGJ45KX911111114132311XF4ZI
  1111Z71b1K12348X2Y414111111111113CFC6XJX1221Y7L12348U4Y414111111111113PXQX91TC1548ZB5111111P1234
  8U4Y4111211111111111111G1YQ1aNA4G9XB61132264X8XM1A16a3111112Ca1E9211EC515P2DX2H1VM9GL5J121251222
  121417X3L1M1N1O1X01X11X21X31X41X51X69C1C1DXCX9X111YU1YV1ZI3ZJ112aQ1C33CZ621211111I12348X2Y451112
  11111178486DYLX22CX0EZO11131112111112CX11Z9M44C9X9111111111111122311UBXC25X1221717XOCPJ25X122171
  7XO1aE5C1EC6H4G9X911112211113241aA2KXPB4PXB321115231aV15CCEPX1221717XM23C1X0P93D1I25J12125122212
  1417X3LC49DIX21J1A19X7J12348X2Y4511111111111H9211C2C51141O267XJE8311C1I25O8XQG11FDB1D1I25O26XQH5
  N9B9HO11111111111132311XF69X31U2Y04CEa452Z422Z51FCX7J12125122212Y5F0B2C1IXH31115519XV12211342111
  111114311111112341131P113B1I111112111211111111111171C45KHQ328232XF2CF3CX0Z13CX1Z06C1DD6XR5C1DYEX
  M5CE4YAXM2LA4CFCY14B1YSX63QYEXM2X7Y12XDXR2UYAM12348U4Y421211111111111YB1211112142111111114121111
  11123311131J321113223221I1111121112111111111111251ECEI25X1221717XM2I4G9X9111122111132312CRK45KHO
  11111114132311XFJ9B9HO1111241132311XFE33CZ621251111111aTD12348X2YE111111X3931C14E253111111111111
  11G2213417X3J22CYEV0B11C1I7J12125122212231115519X724QZJG1I4G9X9111122111112247K9XE28238K9XB32823
  3KXN2AK9XB32116235KXN282B49DIX21J1A195B1Ea451b31aFN44C9X911111111111112231X1X79211C1139511531111
  1111111111G2213417X33IK4GXI11111111111112231G9GJ115X12213417X3LE12348X2Y951111112T11Z63EYG13KXQ1
  5CX0V2DFCD1I25X1221717XM22RZI2CE4C1Da3CB11EC515P2DXJ3YB2Y0784E319ZN584FCYL9CEPX1221Y52B9KHQ32823
  2XF8XJX122171XVQ0B117511C515P26733111551951aLXQ1231342111311431111111541131P11E1I111112111211111
  111111171FB951IX7A31115519EP1I25X1221717XM2XA1231344AF41131P11E1I1111121112111111111111D9GQX1221
  3417X3LJ4G9X9111122111112231E9GL5X12213417X3LE4G9XB321113223X2X09211C1139516J121251222121417X321
  IV93184141D25J121251222121417X3I12S931C14E7J121251222121417X32H221ZG9B11EC515X888311DIZH16B1EIZI
  54CX01YF39X31GCEI25X12213417X3J2O121248U4Y41112111111111115XCXM1A1K4G9X91111111111113231H93EI25X
  12213417X3J22DVQ94C14G5J121251222121417X3J2O9G1K5J121251222121417X3J274X8XM1A19G9211C2C5114P2DX2
  H5QDYLX11C8311DI25OY2G1C8311C1I2TY2G1BB1EI25O2Y0H5BB1D1I2T2Y0H56B11Da312BX725X3XV122111242111211
  14311111112341131P11E1I1111121112111111111111431DQI25X1221717XM2B9YB2213417X3LK931C1D5115X122134
  17X3LJ931C1I25X12213417X3J2J93D14E25X12213417X3J2I93D2C525X12213417X3LI921DJ25X12213417X33IH9G1I
  25X12213417X3J2G9GE525X12213417X3LG9G5E25X12213417X3LT922C11C615J121251222121417X33I1ZCP9G59615J
  121251222121417X3LC4GXK321113223L12348U4Y421211121111113PQX07CX01U2XFH9841E2196YF2KZ82Z6XP2CaG1Z
  B1ZA1a710K45K1X811111114132311XF7XD6X1221Y7XB123134428F41131P113B1I111112111211111111111DBEJPO31
  115519I33CZ621211111111111HCD1I25X12213417X3J2M45B9X911111111111112231O45B91X811111111111132311X
  FI0B11751IX7A31115519XV122113421112111431111111211141131P11E1I111112111211111111111171CXC115X122
  1717XOK0B11751IX7A31115519X61P45B91X8111111111111122311XFN45BXI111111111111122311XFDPJ115X122171
  7XO4CX01Z0I93D1I25X12213417X3J2V9211D139516J121251222121417X321IC4G9XB51113223O9G5E25J1212512221
  21417X3LR931D4E7J121251222121417X32H2K12348U4Y6121112111111B841751DXCX9X11N93DL5J121251222121417
  X3L78311Da312687B11DDZM16B1EDZN53BSB3FBa4F3ZL1113111211111U0C1C1I7J12125122212231115519X72JK9X91
  111111111113231K3348U4Y41411111111111L45B9X91111111111113231O45B9HO11111111111132311XFG0D751IX7A
  31115519XU12211342111211143111111122141131P11E1I111112111211111111111171XE12311244AF311131P11E1I
  111112111111111111111114PB11752C5151I6267331115519DCEK5X1221717XM2XB12311244AF41131P11E1I1111121
  112111111111115OB11752C515P26733111551957C1DIZ1G1GB952HPEA311155193YB2XFFB95JPEA31115519H93D1I25
  X12213417X3LV9211C11C5115J121251222121417X33IU931C14E25J121251222121417X32G123C1V3B1a23CX01O93DE
  75J121251222121417X3LQ93D2C525J121251222121417X3LP9G1I25J121251222121417X3J2R12348S24Y4111211111
  111111113C48X01U2L1A195O9GJ115J121251222121417X3LH12348X2Y91112111111F9211EC51141O2DXJ2YBY25B1FI
  5B8311C1IVY2G1893X01U2Y0F89X3115O2Y031XBY21X8583EZK158J2192Ba32aDFH9KHO111125132311XF833CZ62125B
  C1DD66X1221Y7AC1DPX1221Y52I45XT11111114132311XF9CFCCX1221Y78QPX1221Y52K45KX911111114132311XF37CX
  7X1221Y77X7CX1221Y7C9K1GQ328232XFEXJJ12125122212Y5K9B91GO1111241132311XFYA1211112142111111114121
  1111112341131J321113223221I1111121112111111111111251U0B11C1I7J12125122212231115519X9I33ZI1112111
  11111111H33CZ62121112111111KK9X911111111111112231Y0122111241111121114311111112341131P11E1I111112
  1112111111111111431GP1I25X12213417X3J2GC1DD5115X1221717XOFC1DI25X1221717XM2M45BXI111111111111323
  11XFECFC525X1221717XOO45B9X911111111111132311XF3DB1X025X1221717XO1XAJ0B11751IX7A31115519X6CX7525
  X1221717XO1LXU12211342111211143111111123311131P11E1I111112111211111111111171I0B2751IX7A31115519X
  7HC1C1D5115X1221717XOECD1K5X1221717XM2GC1C1I25X1221717XM2X69211C11C5115311111111111111G2213417X3
  3IFCD2C525X1221717XOP45B9X9111111111111122311XF3EB1DJ25X1221717XODPE525X1221717XOEB95JPEA3111551
  6C1DZJG13RHZ1X0931CJ25311111111111111G2213417X3LX09G59525311111111111111G2213417X3LX093DJ1153111
  11111111111G2213417X3LX09G1I25311111111111111G2213417X3J2V9GJ115311111111111111G2213417X3LX29211
  841418525J121251222121417X32G12X29211C11395115J121251222121417X32199U9211C1D5115J121251222121417
  X33IV9211D1395115J121251222121417X33IU93184141D7J121251222121417X3I12U931C1139516J12125122212141
  7X33IX09211C1139615J121251222121417X321IX0921184141D25J121251222121417X3I12H12348U4Y6125111111U9
  3184141D25J121251222121417X3I3C931DD6P1KDX3LK931DD6P1212822121CX3LD931DD6P15FDX3LB931DXC1KDX3J2J
  931DXC1212822121CX3J2C931DXC15FDX3J2U931C14E25J121251222121417X32A72G45B9XB3211132232XFB93E4X81K
  DX3J2J93E4X81212822121CX3J2C93E4X815FDX3J2R931D4E25J121251222121417X3J2S931C14G5J121251222121417
  X32H2A93FCV1KDX3LI93FCV1212822121CX3LB93FCV15FDX3LK9GXD121251222121417X3LP931CJ25J12125122212141
  7X3LA921XQ1KDX33II921XQ1212822121CX33IB921XQ15FDX33IP93EI25J121251222121417X3J24DEHZ1H45B91XA321
  1132232XF3DEHP9G59525J121251222121417X3L99HXC1KDX3J2H9HXC1212822121CX3J2A9HXC15FDX3J2M9GJ25J1212
  5122212141XAL89UV1KDX3LG9UV1212822121CX3L99UV15FDX3L89X4P1KDX3LG9X4P1212822121CX3L99X4P15FDX3L89
  LX81KDX3LG9LX81212822121CX3L99LX815FDX3LL9X325J12125122212141XAL79XT1KDX3LF9XT1212822121CX3L89XT
  15FDX3LA49VX21J1A19G12348X2YA112111111J12348U4Y451112111111DB11EC515P2DX2HD9211EC515P2DXJF9211EC
  515P267X2HG83113451D5V8X9HG1F9211EC515P2DX2HAF9211EC5114P2DX2HD9211EC65P2DX2HBB11EC515RDXJB8311D
  IV8XQG1B8311DIVY2A61B8311DI2TY2G198311DXHY2G198311DIZ1G1AB1EIV26XQH5AB1EIV2Y0A75AB1EI2T2Y0H58B1E
  XH2Y0H58B1EIX1Y0H58931V1U2Y02X7Z67B11DKZF16CX01X0XFH6C1EC6YF59X31X0Y04DDD63CY7Y93Z81XM2C31aC3GAa
  41ZG1ZFaU011111111111111111111111111111111111111111111111111111111111111111111111111111111111111
  111111111111132113111111111111111111111111111111111111112111111111112111220D8CEPX1221Y7JC1DD66J1
  2125122212Y5IC1DPJ12125122212Y32HCEPJ12125122212Y32HCFCCJ12125122212Y5GQPJ12125122212Y32C9KHQ328
  232XF3FX7CJ12125122212Y5FXD6J12125122212Y5DC1DD66X122171XVCC1DPX122171XT2BCEPX122171XT2BCFCCX122
  171XVAQPX122171XT2K9B9HO1111241132311XF39CX7X122171XV9X7CX122171XV9XD6X122171XVGCX7J12125122212Y
  327C1DIVYI12YDY08C1V1U2DX27CFH1U2D6CFHV2DDCEI25X1221717XO1X9I0B27511HX7A31115519XS12211342111311
  4311111112341131P11E1I111112111211111111111171G0B275JX7A31115519ECD1I25X1221717XODCD1K5X1221717X
  ODP1K5X1221717XM2F94DD6X72213417X3LO9211C11395115X12213417X33IDB9OPO31115519E94DXQ2213417X3J2H94
  C1D66X12213417X3LE9H4XM2213417X3J2G94C1PX12213417X3J2BPL5X1221717XOXB1231344AF311131P11E1I111112
  1112111111111111D9ICXD2213417X3LG9G14LX12213417X3J2I94C1D615X12213417X3LD9HXQ2213417X3J2D92Y9221
  3417X33ID93RXD2213417X3LX81231344AF5131P11E1I111112111211111111111H94C1K5X12213417X3J2F9G2CCX122
  13417X3LF9G1PX12213417X3J2H9G14G5X12213417X3J2F92EQX12213417X33IC9UXD2213417X3LC9X4X72213417X3LC
  9LXM2213417X3LC93Y82213417X3L3DVZ1G9G2C75X12213417X3LG9G1K5X12213417X3J2E93DQX12213417X3LK931C14
  E25X12213417X3J2G92EL5X12213417X33IE9GECX12213417X3LE9GK6X12213417X3LE9G5LX12213417X3LF93DL5X122
  13417X3LF9GE75X12213417X3LF9GK15X12213417X3LF9G5G5X12213417X3LR9211D1396P12125122212141XA3IS9211
  C11396P12125122212141XA3IV9211C11395115J12125122212141XA3IS922C11396P121251222121417X33IU922C113
  9615J121251222121417X33IV931C11395115J121251222121417X33IV9211C1139615J121251222121417X33IN931D4
  X812125122212141XAJ2884851DXCX9R931DD5115J121251222121417X3LI931DD6P15822121CX3LL931DD6P12125322
  121CX3LB931DD6QKDX3LJC1DD6P12125322121CXOF931DD6P15A23DX3LA931DD6XEDX3LM931DD6P121251222121CX3LK
  C1DD6P121251222121CXOO931DD6P121251222121417X3LO931C14X812125122212141XAJ2L931DXC121251222121CX3
  J2JC1DXC121251222121CXM2N931DXC121251222121417X3J2Q931DI25J121251222121417X3J2H931DXC15822121CX3
  J2K931DXC12125322121CX3J2A931DXDKDX3J2IC1DXC12125322121CXM2E931DXC15A23DX3J29931DY1DX3J2QC1C11C5
  115J12125122212517XO5C1DD6Q93E4E25J121251222121417X3J2H93E4X815822121CX3J2K93E4X812125322121CX3J
  2A93E4X9KDX3J2ICE4X812125322121CXM2E93E4X815A23DX3J2993E4XTDX3J2Q94C1D615J121251222121417X3LL93E
  4X8121251222121CX3J2JCE4X8121251222121CXM2N93E4X8121251222121417X3J2R931C14E25J12125122212141XAJ
  2P94C1K5J121251222121417X3J2K93FCV121251222121CX3LICFCV121251222121CXOM93FCV121251222121417X3LP9
  3FC525J121251222121417X3LR931C14G5J121251222121417X3J2G93FCV15822121CX3LJ93FCV12125322121CX3L993
  FCX0KDX3LHCFCV12125322121CXOD93FCV15A23DX3L893FCXKDX3LO94C14X8121251222121417X3J2R931C14E25J1212
  51222121417X3L4CE4a0P9G14G5J121251222121417X3J2P921X025J121251222121417X33IG921XQ15822121CX33IJ9
  21XQ12125322121CX33I9921XRKDX33IHB1XQ12125322121CX6ID921XQ15A23DX33I8921YFDX33IK921XQ12125122212
  1CX33IIB1XQ121251222121CX6IM921XQ121251222121417X33IS931C1D5115J121251222121417X3LR931C1I25J1212
  51222121417X3J2OC1C1I25J12125122212517XM2M93DEV121251222121417X3LO9G2C75J121251222121417X3LNCD1I
  25J12125122212517XM2O9HI25J121251222121417X3J2F9HXC15822121CX3J2I9HXC12125322121CX3J289HXDKDX3J2
  GQXC12125322121CXM2C9HXC15A23DX3J279HY1DX3J2J9HXC121251222121CX3J2HQXC121251222121CXM2L9HXC12125
  1222121417X3J2O92EL5J121251222121417X33IR93D14E25J121251222121417X3J2P93D1I25J12125122212141XAJ2
  H45B9XB3211132232XF3MB1DJ25J12125122212517XON9U525J121251222121417X3LE9UV15822121CX3LH9UV1212532
  2121CX3L79UX0KDX3LFX7V12125322121CXOB9UV15A23DX3L69UXKDX3LN9X3115J121251222121417X3LE9X4P1582212
  1CX3LH9X4P12125322121CX3L79X4QKDX3LFXDP12125322121CXOB9X4P15A23DX3L69X4XEDX3LI9UV121251222121CX3
  LGX7V121251222121CXOK9UV121251222121417X3LI9X4P121251222121CX3LGXDP121251222121CXOK9X4P121251222
  121417X3LN9GE75J121251222121417X3LN9LE25J121251222121417X3LE9LX815822121CX3LH9LX812125322121CX3L
  79LX9KDX3LFUX812125322121CXOB9LX815A23DX3L69LXTDX3LI9LX8121251222121CX3LGUX8121251222121CXOK9LX8
  121251222121417X3LN9GK15J121251222121417X3LQ921DJ25J121251222121417X33IN9G5G5J121251222121417X3L
  M9X325J121251222121417X3LD9XT15822121CX3LG9XT12125322121CX3L69XUKDX3LEY612125322121CXOA9XT15A23D
  X3L59YIDX3LH9XT121251222121CX3LFY6121251222121CXOJ9XT121251222121417X3LKPJ25J12125122212517XOO9G
  E525J121251222121417X3LQ12348S24Y41112111111111111194LJX7F1A19A9211EC65X8X23XCV2BB11EC515P2D6CX0
  1U2Y0AC1EH1U2DX2H7C1DDYLX118C1DIVY2G198311DIVYI18B1EIV2YH51aI1aJ1aK6CX0V2DXJ7841EC6YF7841CEXCX96
  CX01U2XF6841CXQX9384YE3B1YE59X31U24CFCYL4C1Q6384X12BYF4Z621XM3PLX53C123CFI"

end ScriptCensus.Grammar.TypeScript
