/-!
# The TypeScript states

The states of the automaton, packed.
-/

namespace ScriptCensus.Grammar.TypeScript

/-- The states of the automaton, as packed numbers. -/
def states : String :=
  "bpI0001111222233223431253126412751285129612A712B612C812D612E912E612F612G612HA12I612JB12K612LC12M
  612ND12O612PE12Q612RF12SG12T612UH12VI12VJ12VK12VL12VM12VN12X0O32VP12VQ12VR12VS12VT12VU12VV12VX01
  2VX112UX212UX312UX412UX512UX612UX712X1X832UX912UXA12UXB12UXC12UXD12UXE12UXF12UXG12UXH12X2O32X3O3
  2X4O32X5O32X6O32X7X832X8O32X9XI32XAXJ44XBXK44XCXK44XDXL43XEXM43XFXN43XGXO32XHXP43XIXQ43XJXR43XKX
  S43XLXL43XGXT32XGXU32XMXV32XNY043XOY043XMY132XMY232XMY332XMY432XPY543XPY643XQY043XRY744XSY744XTY
  843XUY943XSYA44XVY044XTYB43Y0Y744Y1YC44Y1YD44Y2Y044Y3Y643Y4Y643Y5YE43Y6YB43Y6Y843Y7Y543Y8Y043Y9Y
  643YAYE43YBYE43YCYE43YDYF43YEYG44YEYH44YFY044YGYI43YHYJ43YHYK43YIY043YJY943YKY043YLYL43YMYM43YNY
  N43YLYO43YMYE43YOY043YPY043YNYP43YQY043YRY043YSYQ32YTY043YUY043YVY943Z0Y043Z1Y043Z2Y043YVY043Z3Y
  043Z4Y043Z5Y043Z6Y043Z7YR32Z8YS32Z9YT32ZAYU32ZBYV32ZCZ032ZDZ132ZEZ232ZFZ332ZGZ432ZHZ532ZIZ632ZJZ
  732ZKZ853ZLZ954ZMZA54ZNZB53ZOZC54ZPZD53ZQZE53ZRZF53ZSZG53ZTZH53ZUZI23ZVZI24a0ZI24a1ZI23a2ZI23a3Z
  I23a4ZJ12a4ZK12a5ZL23a6ZM12a7ZN23a6ZO12a8ZP12a8ZQ12a9ZI24aAZI23aBZI23aCZI23aDZI23aEZI23aFZI23aGZ
  R12aGZS12aHZT54aIZT54aJZT54aK054aLZU12aMZV12aNZV12aOa012aPa112aQZV12aRZV12aSZV12aTZV12aUa212aV05
  4b0054aUa312b1054b2054b3054b4054b5054b6054b7054b8054b9ZV12bA054bB054bC054bD054bE054bF054bG054bH0
  54bI054bJ054bK054bL054bM054bN054bO054bPa412bQa412bRa412bSa412bTa412bUa512bVa615c0a612c1a712c2a81
  2c3a912c4aA12c5aB12c6a912c7aC12c8a912c2aD12c9043cA043cBaE12cC043cD043cEaF12cFaG12cGaH12cHaI12cIa
  J12cJaK12cKaL12cLaM12cMaN12cNaO12cOaP12cPaQ12cQaR12cRaS12cSaT12cTaU12cUaV12cVb012d0b112d1b212d2b
  312d3b412d4b512d5b612d6b712d7b812d8b712d9b812dAb912dBbA12dCb612dDbB12dEbC12dFb712dGbD12dHbE12dIb
  F12dJbG12dKbH15dLXL12dMbI12dNXM12dObJ12dMbK12dPbL12dMbM12dMbN12dQbO12dRbP12dSbQ12dTbR12dUbS12dVb
  T12e0bU12e1bV12e2c012e3c112e4c212e5c312e6c412e7c512e4c612e7c712e4c812e8c912e4cA12e4cB12e4cC12e7c
  D12e7cE12e5cF12e5cG12e9cH12e6cI12e5cJ12e5cK12e5cL12e5cM12eAcN12eAcO12eAcP12eAcQ12eAcR12eAcS12eBc
  T12e5cU12eBcV12e7d012eBd112eBd212eBd312eBd412e7d512eCd612eCd712eCd812eCd912eCdA12eCdB12eDdC12eDd
  D12eDdE12eDdF12eDdG12eDdH12eEdI12eEdJ12eEdK12eEdL12eEdM12eEdN12eFdO12eFdP12eFdQ12eFdR12eFdS12eFd
  T12eGdU12eGdV12eGe012eGe112eGe212eGe312eHe412eHe512eHe612eHe712eHe812eHe912eIeA12eIeB12eIeC12eIe
  D12eIeE12eIeF12e3aI12e3eG12eJeH12e3eI12e3eJ12e3eK12e3eL12eKeM44eLeN12eMeO12e3eP12e3eQ12e3eR12eNe
  S12e3eT12e3eU12e3eV12e3f012e3f112e3f212e3f312e3f412e3f512e3f612e3f712e3f812e3f912e3fA12eOfB12e3f
  C12e3fD12e3fE12e3fF12e7fG12e3fH12e3fI12ePaB12e5fJ12e7fK12e7fL12eQfM12e3fN12e7fO12e3fP12e5fQ12e5f
  R12e5fS12e5fT12e5fU12e5fV12e5g012e5g112e5g212e5g312e5g412e5g512e5g612e5g712e5g812e5g912e5gA12e5g
  B12e5gC12e5gD12e5gE12e5gF12eRaI12e5gG12e5aF12e5gH12eSgI44eTgJ12eUaF12eVgK12f0gI44f1aB12f2a612f3a
  B12f4a612f5gL12eTgM12eQgN12eQgO12eQgP12eQgQ12eQgR12eNgS12eQgT12eQgU12eQgV12eQh012eQh112eQh212eQh
  312eQh412eQh512eQh612eQh712eQh812eOh912eQhA12eQhB12f6aF12e7hC12eQhD12f7hE12e7hF12e7hG12e7hH12e7h
  I12e7hJ12e7hK12e7hL12e7hM12e7hN12e7hO12e7hP12e7hQ12e7hR12e7hS12e7hT12e7hU12e7hV12e7i012e7i112e7i
  212e7i312f8aP12e7i412e7a612e7i512f9a612fAi612eTi712eTi812eTi912eTiA12eTiB12eNiC12eTiD12eTiE12eTi
  F12eTiG12eTiH12eTiI12eTiJ12eTiK12eTiL12eTiM12eTiN12eTiO12eTiP12eTiQ12fBa612eTiR12eViS12f7iT12f7i
  U12f7iV12f7j012f7j112f7j212f7j312f7j412f7j512f7j612f7j712f7j812f7j912f7jA12f7jB12f7jC12f7jD12f7j
  E12f7jF12fCaQ12f7jG12f7aB12f7jH12fDaR12fEjI12eNjJ12e6jK12e6jL12e6jM12e6jN12e6jO12e6jP12e6jQ12e6j
  R12e6jS12e6jT12e6jU12e6jV12e6k012e6k112e6k212e6k312e6k412e6k512e6k612e6k712e6aR12e6k812fFaS12fGk
  912eNkA12eNkB12eNkC12eNkD12eNkE12eNkF12eNkG12eNkH12eNkI12eNkJ12eNkK12eNkL12eNkM12eNkN12eNkO12eNk
  P12eNkQ12eNkR12eNkS12eNkT12eNkU12eNaS12eNkV12fHaT12fIl012eNl112eOl212eOl312eOl412eOl512eOl612eOl
  712eOl812eOl912eOlA12eOlB12eOlC12eOlD12eOlE12eOlF12eOlG12eOlH12eOlI12eOlJ12eOlK12eOlL12eOaT12eOl
  M12fJlN12eNlO12eVlP12eVlQ12eVlR12eVlS12eVlT12eVlU12eVlV12eVm012eVm112eVm212eVm312eVm412eVm512eVm
  612eVm712eVm812eVm912eVmA12eVmB12eVmC12eVaU12eVmD12fKmE12eNmF12eQaP12eQmG12eQmH12e7mI12fLaU12eTa
  Q12eTmJ12e6mK12eNmL12eOmM12fMmN12eNmO12fNmP12eNmQ12fOmR24fPmS24fQmS24fRmT24fSmU24fTmU24fUmV44fVm
  V44g0n024g1n124g2n124g3n224g4n224g5n324g6n324g7n324g8n324g9n424gA012gB012gCn424gD012gE012gF012gG
  012gH012gIn524gJn524gKn424gLn624gMn624gNn724gOn624gPn624gQn823gRn823gSn923gTn923gUnA24gVnA24h0nB
  23h1n923h2nA24h3nA24h4nC24h5nC24h6n923h7nD23h8nB23h9nB23hAnE43hBnE43hCn923hDnF12hEnG24hF015hG015
  hHnD23hInD23hJnD23hKnG24hLnG24hMnG24hNnG24hO012hP012hQ015hR015hS015hT015hU015hV015i0nH23i1nD23i2
  nH23i3nD23i4nI23i5nI23i6n823i7n823i8n823i9nJ12iAnK12iBnK12iCn823iDn823iEn823iFn823iGn823iHn823iI
  n823iJn823iKn823iLn823iM012iNnL62iOnM12iP015iQ015iR012iS015iT015iU015iV015j0015j1015j2015j3015j4
  015j5015j6015j7012j8012j9nK12jA012jB012jC015jD015jEnN62jFnO62jGnP62jHnQ62jI012jJ012jK012jJ012jL0
  12jM012jN012jO012jP012jQ012jR012jS012jT012jU012jV012k0012k1012k2012k3012k4012k5012k6012k7012k801
  2k9012kA012kB012kC012kD012kE012kF012kG012kG012kH012kI012kJ012kK012kL012kL012kM012kN012kO012kP012
  kQ012kR012kS012kT012kU012kV012l0012l0012l0012l1nR62l2012l3012l4012l5012l6012l7012l7012l8012l9012
  lA012lA012lB012lC012lD012lE012lE012lF012lG012lH012lI012lJ012lK012lK012lK012lL012lMnR62lN012lO012
  lP012lQ012lR012lS012lS012lT012lU012lV012m0012m0012m1012m2012m3012m4012m5012m6012m7012m8012m9012m
  A012mB012mC012mD012mE012mF012mG012mH012mI012mJ012mK012mL012mM012mN012mO012mP012mQ012mR012mS012mT
  012mU012mVnR62n0nR62n1nR62n2nR62n3nR62n4nR62n5nR62n6nR62n7nR62n8nS62n8nT62n8nU62n9012nA012nB012n
  C012nC012nC012nC012nD012nEnV62nF012nGo062nH012nGo162nIo262nIo362nJo462nJo562nEo662nEo762nKo862nK
  o962nIoA62nLoB62nLoC62nMoD62nNoE62nOoF62nPoE62nQ072nR072nS072nToE62nUoG62nVoE62o0oE62o1oH62o2oE6
  2o3oE62o4oI62o5oE62o6oE62o7oJ62o8oE62o9oE62oAoE62oBoK62oBoL62oBoM62oBZI62oBoN62oBoO62oBoP62oCoQ6
  2oDoR62oEoS62oEoT62oBoU62oBoV62oBp062oBp162oBp262oFp362oEp462oBoE62oBp562oBp662oBp762oBp862oBp96
  2oGpA62oBpB62oBpC62oBpD62oBpE62oEpF62oEpG62oEpH62oEpI62oBpJ62oBpK62oBpL62oBpM62oBpN62oBpO62oBpP6
  2oDpQ62oDpR62oDpS62oHpT62oHpU62oBpV62oDq062oDq162oDq262oDq362oIq462oIq562oDq662oDq762oDq862oDq96
  2oEqA62oEqB62oEZN62oJqC62oJqD62oEqE62oEqF62oEqG62oEqH62oDqI62oDqJ62oEqK62oEqL62oEqM62oEqN62oKqO6
  2oKqP62oKqQ62oLqR62oLqS62oKqT62oKqU62oKqV62oKr062oKr162oKr262oKr362oKr462oIr562oIr662oIr762oMr86
  2oMr962oIrA62oIrB62oIrC62oIrD62oIrE62oIrF62oIrG62oIrH62oGrI62oGrJ62oGrK62oNrL62oNrM62oBrN62oOrO6
  2oKrP62oGrQ62oGrR62oGrS62oGrT62oGrU62oGrV62oGs062oGs162oGs262oGs362oEs462oEs562oBs662oKs762oKs86
  2oBs962oBsA62oBsB62oEsC62oFsD62oFsE62oEsF62oFsG62oFsH62oFsI62oFsJ62oFsK62oFsL62oBsM62oEsN62oFsO6
  2oFsP62oBsQ62oBsR62oBsS62oFsT62oFsU62oFZL62oPsV62oPt062oBt162oFt262oBt362oFt462oFt562oFt662oFt76
  2oFt862oQt982oRtA82oStB82oTt982oUt982oVt982p0t982p1t982p2tB82p3t982p4t982p5t982p6tC24p7tD44p8tE2
  4p9012pA012pB012pCtF24pDtG44pEtH24pFtF24pGtG44pHtH24pItI23pJtI23pKtJ82pKtK82pLtI23pMtI23pNtL24pO
  tM44pPtN24pQtO24pRtI23pStI23pTtI24pUtO24pVtM44q0tN24q1tO24q2tI24q3n524q4tI23q5tP43q6tI23q7043q80
  43q9043qA043qB043qC043qD043qE043qF043qGtI23qHn624qIn624qJtI23qKtI43qLtI43qMtI23qNn524qOn524qPtM4
  4qQtN24qRtI23qStI23qTtL24qUtI23qV043r0043r1tQ24r2n624r3n624qPtR44r4tS24r5n624r6n624r7tO24r8tI24r
  9tT23rA043rBtU12rCtV23rDtT24rEu024rFu123rGtT24rHtI23rItI23rJtI23rKtI23rLtI23rMtI23rNtI23rOtI23rP
  tI23rQu212rRu123rSu124rTu343rU012rV023s0023s1023s2023s3u123s4tT23s5024s6tT23s7tI23s8u124s9023sAt
  T24sBtI23sCtI23sDtT43sEtI23sFtI23sGtI23sHtI23sItI23sJtI23sKtT23sLtI23sM024sNu212sO023sP012sQ024s
  Ru123sS012sT023sU023sV023t0u123t1u123t2024t3024t4u124t5024t6024t7024t8024t9u143tA023tB023tCtT23t
  DtT23tEtT23tFtT23tGtT23tH023tI023tJ024tK024tL012tM024tN024tO023tP023tQ012tR024tS023tT024tU024tV0
  24u0024u1024u2024u3tT23u4023u5012u6024u7024u8024u9023uA023uB023uC023uD023uE024uFu123uG024uH024uI
  024uJ024uK024uL024uM043uNtT23uO024uP023uQu123uR024uSu123uTu123uU024uV023v0024v1023v2023v3023v402
  3v5023v6023v7023v8023v9u123vA023vB023vC023vD024vE024vF023vG043vH043vI023vJ023vK024vL023vM023vN02
  4vO023vP023vQ043vR043vSu462vT023vU023vV023w0023w1023w2023w3023w4023w5023w6023w7023w8u562w9u662wA
  u762wBu862wCu962wD024wE024wF024wG024wH023wI043wJ023wK023wL023wM023wN023wO023wP023wQ024wR023wS023
  wT023wU023wV023x0023x1023x2023x3023x4023x5023x6uA62x7uA62x8uA62x9023xA023xBuA62xCuA62xDuA62xEuA6
  2xFuA62xGuA62xHuA62xIuA62xJuA62xKuA62xLuA62xMuA62xNuA62xOuA62xPuA62xQ023xR023xS023xT023xU023xV02
  3y0023y1023y2023y3023y4023y5023y6023y7023y8023y9023yA023yB023yC023yD023yE023yF023yG023yH023yI023
  yJ023yK023yL023yM023yN023yO023yP023yQ023yRuB62yRuA62yRuC62yRuD62yRuE62yRuF62yRuG62ySuH62yTuI62yU
  uI62yVuJ15z0uK15z1uL62z2uI62z3uJ15z4uM62z5uI62z6uJ15z7uN62z8uI62z9uJ15zAuO62zBuI62zCuP12zDuQ53zE
  uR12zFuR12zGuR12zHuR12zIuR12zJ054zKuS15zL054zMuS15zNuT53zOuU53zPuV53zQv053zRv112zSv253zT053zU053
  zV053-0054-1053-2v353-3v453-4053-5v053-6053-7053-8053-9053-A053-B053-C053-Dv553-Ev653-Fv753-G053
  -H053-I053-Jv854-Kv854-Lv854-M053-N053-O053-P053-Q053-R053-S053-Tv953-Uv953-Vv953_0053_1053_2053
  _3053_4053_5053_6053_7053_8054_9053_A053_B053_C053_D053_E053_F053_G053_H053_I053_J053_K053_L053_
  M053_N053_O053_P053_Q053_R053_S053_T053_U053_V053XW0053XW1053XW2053XW3053XW4053XW5053XW6053XW705
  3XW8053XW9053XWA053XWB053XWC053XWD053XWE053XWF053XWG053XWH053XWI053XWJ053XWK053XWL053XWK053XWL05
  3XWM053XWN053XWM053XWN053XWO053XWP053XWO053XWP053XWQ053XWR053XWS053XWT053XWU053XWV053XX0053XX105
  3XX2053XX2053XX2053XX3053XX3053XX3053XX4053XX4053XX4053XX5053XX6053XX7053XX8053XX9053XXA053XXA05
  3XXA053XXB053XXB053XXB053XXC053XXC053XXC053XXD053XXE053XXF053XXG053XXH053XXI054XXJ053XXKvA54XXLv
  B15XXM053XXN053XXO053XXP053XXQ053XXR053XXQ053XXS053XXT053XXU053XXV053XY0053XY1053XY2053XY3053XY4
  053XY5053XY6053XY7053XY8053XY9053XYA053XYB053XYC053XYD053XYE053XYF053XYG053XYH053XYI053XYJ053XYK
  053XYL053XYM053XYN053XYO053XYPvC15XYQ053XYR053XYS053XYT053XYU053XYV053XZ0053XZ1053XZ2053XZ3053XZ
  4053XZ5053XZ6053XZ7053XZ8053XZ9053XZA053XZB053XZC053XZD053XZE054XZF054XZG053XZH053XZI053XZJ053XZ
  K053XZL053XZM053XZNvB15XZOvB15XZPvB15XZQ054XZRvD15XZSvE15XZTvF15XZU054XZVvG15Xa0vH15Xa1053Xa2053
  Xa3054Xa4054Xa5053Xa6vI54Xa7vJ54Xa8vK54Xa9054XaAvL15XaBvM15XaC054XaD054XaE054XaFvN54XaGvG15XaHvH
  15XaIvO53XaJvO53XaKvO53XaLvO53XaMvO53XaNvO53XaOvO53XaPvO53XaQvO53XaRvO53XaSvO53XaTvO53XaUvO53XaV
  vO53Xb0vO53Xb1vO53Xb2vO53Xb3vO53Xb4vO53Xb5vO53Xb6vO53Xb7vO53Xb8vO53Xb9vO53XbAvO53XbBvO53XbCvG15X
  bDvH15XbEvG15XbFvH15XbGvO53XbHvO53XbIvO53XbJvO53XbKvP54XbLvQ54XbMvR53XbNvQ54XbOvQ54XbPvQ54XbQvQ5
  4XbRvQ54XbSvQ54XbTvQ54XbUvQ54XbVvQ54Xc0vQ54Xc1054Xc2vQ54Xc3vQ54Xc4vQ54Xc5vQ54Xc6vQ54Xc7vQ54Xc8vQ
  54Xc9vQ54XcAvQ54XcBvQ54XcCvQ54XcDvQ54XcEvQ54XcFvS15XcGvQ54XcHvQ54XcIvQ54XcJvQ54XcKvQ54XcLvG15XcM
  054XcNvT15XcOvU15XcP054XcQvQ54XcR053XcS054XcTvV54XcUw054XcV053Xd0vN54Xd1093Xd2054Xd3054Xd4vL15Xd
  5054Xd6053Xd7053Xd8053Xd9054XdA054XdB054XdC054XdD054XdE054XdFw153XdGvG15XdHvO53XdIw253XdJvG15XdK
  w353XdLvG15XdMvQ54XdNvQ54XdOvQ54XdPvQ54XdQvQ54XdRvQ54XdSvQ54XdTvQ54XdUvQ54XdVvQ54Xe0vQ54Xe1vQ54X
  e2vQ54Xe3vQ54Xe4vQ54Xe5vQ54Xe6vQ54Xe7vQ54Xe8vQ54Xe9vQ54XeAvQ54XeBvQ54XeCvQ54XeDvQ54XeEvQ54XeFvQ5
  4XeG053XeHvQ54XeIvQ54XeJvQ54XeKvQ54XeLw454XeMw554XeNw612XeOw454XePw454XeQ054XeRw754XeS054XeT054X
  eUn012XeVw815Xf0015Xf1w954Xf2wA15Xf3053Xf4053Xf5054Xf6054Xf7054Xf8054Xf9054XfAvQ54XfBvQ54XfCvQ54
  XfDvQ54XfEwB15XfFwC15XfGwD15XfHwE15XfIwF15XfJ053XfK053XfL053XfMwG15XfNwH15XfOwI15XfPwJ15XfQwK15X
  fRvQ54XfS054XfTvO53XfUvO53XfVvO53Xg0054Xg1054Xg2054Xg3054Xg4054Xg5054Xg6054Xg7054Xg8vO53Xg9vO53X
  gAvO53XgBvO53XgCn112XgDvO53XgE054XgF054XgG054XgH054XgI054XgJ053XgK053XgL054XgM054XgN054XgO054XgP
  054XgQ054XgR054XgS054XgT054XgU054XgV054Xh0054Xh1054Xh2054Xh3vO53Xh4vO53Xh5vO53Xh6vO53Xh7vO53Xh8v
  O53Xh9vO53XhAvO53XhBvO53XhCvO53XhDvO53XhEvO53XhFvO53XhGvO53XhHvO53XhIvO53XhJvO53XhKvO53XhLvO53Xh
  MvO53XhNvO53XhO054XhP054XhQ054XhR054XhS054XhT054XhU054XhV054Xi0054Xi1054Xi2054Xi3054Xi4054Xi5054
  Xi6054Xi7054Xi8054Xi9054XiA054XiB054XiC054XiD054XiE054XiF054XiG054XiH054XiI054XiJ054XiK054XiL054
  XiM054XiN054XiO054XiN054XiO054XiP054XiQ054XiP054XiQ054XiR054XiS054XiR054XiS054XiT054XiU054XiV054
  Xj0054Xj1054Xj2054Xj3054Xj4054Xj5vO53Xj6054Xj7054Xj8054Xj8054Xj8054Xj9054Xj9054Xj9054XjA054XjA05
  4XjA054XjB054XjC054XjD054XjE054XjF054XjG054XjG054XjG054XjH054XjH054XjH054XjI054XjI054XjI054XjJ05
  4XjK054XjL054XjMn112XjNvQ54XjOn112XjP053XjQ054XjR053XjS054XjT054XjU054XjV054Xk0n112Xk1053Xk2053X
  k3054Xk4054Xk5n112Xk6053Xk7053Xk8054Xk9054XkA054XkB054XkCwL12XkD054XkEvO53XkFvO53XkGvO53XkHvO53X
  kIvO53XkJvO53XkKvO53XkLvO53XkMvO53XkNvO53XkOvO53XkPvO53XkQvO53XkRvO53XkSvO53XkTvO53XkUvO53XkVvO5
  3Xl0vO53Xl1vO53Xl2vO53Xl3vO53Xl4vO53Xl5vO53Xl6vO53Xl7vO53Xl8vO53Xl9vO53XlAvO53XlBvO53XlC053XlD05
  4XlE054XlF054XlG054XlH053XlI053XlJwM53XlK054XlL054XlM054XlN054XlM054XlOvQ54XlP054XlQ054XlRwM53Xl
  SvO53XlTwN12XlU054XlVn212Xm0n212Xm1wO53Xm2053Xm3053Xm4054Xm5wP15Xm6wQ53Xm7054Xm8054Xm9054XmA054X
  mB094XmCwR15XmDwS15XmE053XmFwO53XmG054XmH054XmIwT53XmJ054XmKvQ54XmLwO53XmM054XmN054XmO054XmPwU12
  XmQ054XmR054XmS054XmT054XmUvQ54XmVwO53Xn0053Xn1053Xn1053Xn1053Xn2054Xn3vO53Xn4wV15Xn5wC15Xn6x015
  Xn7054Xn8054Xn9054XnA054XnB054XnC054XnD054XnE054XnFx115XnGx215XnH053XnI053XnJ053XnK053XnLwO53XnM
  054XnN054XnO054XnP054XnQ054XnR054XnS054XnTwO53XnUx353XnVx353Xo0x353Xo1wO53Xo2053Xo3053Xo3053Xo30
  53Xo4x415Xo5x515Xo6x615Xo7x715Xo8054Xo9x815XoAx915XoBwI15XoCxA15XoD054XoE054XoF054XoG054XoH054Xo
  I054XoJx353XoKx353XoLx353XoM053XoNxB15XoOxC15XoPxD15XoQxE15XoRxF15XoSxG15XoTxH15XoUxI15XoV054Xp0
  054Xp1x353Xp2x353Xp3x353Xp4x353Xp5xJ15Xp6xK15Xp7xL15Xp8xM15Xp9053XpAxN15XpBn312XpCn312XpD054XpE0
  53XpFxO15XpG054XpH054XpI054XpJ053XpK054XpLxP15XpM054XpN054XpO054XpP054XpQ054XpRxQ15XpS054XpT054X
  pUn312XpVn312Xq0054Xq1053Xq2053Xq3054Xq4054Xq5054Xq6054Xq7054Xq8054Xq9054XqA054XqB054XqC054XqD05
  4XqEn312XqFn312XqG094XqH053XqI054XqJ053XqKn312XqLn312XqM053XqN053XqOn312XqPn312XqQn615XqRn615XqS
  053XqT053XqUn515XqVn515Xr0053Xr1053Xr2054Xr3054Xr4n615Xr5n615Xr6n615Xr7n615Xr8n615Xr9n615XrAxR53
  XrBvQ54XrCvQ54XrDvQ54XrEvQ54XrFvQ54XrGvQ54XrHvQ54XrIxS53XrJvQ54XrKwO53XrLvQ54XrMvQ54XrNvQ54XrOvQ
  54XrPvQ54XrQvQ54XrRvQ54XrSvQ54XrTvQ54XrUvQ54XrVvQ54Xs0vQ54Xs1vQ54Xs2vQ54Xs3vQ54Xs4vQ54Xs5vQ54Xs6
  wO53Xs7vQ54Xs8xT53Xs9xU53XsAxV53XsBy053XsCy153XsDvQ54XsEvQ54XsFvQ54XsGvQ54XsHy215XsIx353XsJy315X
  sKx353XsLx353XsMy415XsNx353XsOy515XsP053XsQwO53XsRwO53XsS054XsTwO53XsUvQ54XsVy612Xt0053Xt1y712Xt
  2n212Xt3053Xt4vO53Xt5wP15Xt6y812Xt7wR15Xt8vO53Xt9y915XtAyA15XtBx015XtCvQ54XtDyB12XtEvO53XtFvO53X
  tGyC15XtHvQ54XtI053XtJ054XtKxN15XtL015XtMn312XtNvO53XtOxO15XtPvO53XtQwV15XtRx115XtSxP15XtTx415Xt
  UyD15XtVx815Xu0xQ15Xu1xB15Xu2xG15Xu3xJ15Xu4xL15Xu5054Xu6n312Xu7093Xu8053Xu9053XuAn312XuB053XuC05
  4XuD054XuE053XuF053XuG053XuHn312XuI053XuJ053XuK053XuLn312XuM054XuN054XuO054XuP053XuQ053XuR053XuS
  vQ54XuTvQ54XuUvO53XuVy215Xv0y315Xv1y415Xv2y515Xv3vO53Xv4vO53Xv5vO53Xv6vO53Xv7vO53Xv8vO53Xv9vO53X
  vAvO53XvBvO53XvCvO53XvDvO53XvEvO53XvFvO53XvGvO53XvHvO53XvIvO53XvJvO53XvKvO53XvLvO53XvMvO53XvNvO5
  3XvOvO53XvPvO53XvQvO53XvRvO53XvSvO53XvTvO53XvUvO53XvVvO53Xw0vO53Xw1vO53Xw2vO53Xw3vO53Xw4vO53Xw5v
  O53Xw6vO53Xw7vO53Xw8vO53Xw9vO53XwAvO53XwBvO53XwCvO53XwDvO53XwEvO53XwFvO53XwGvO53XwHvO53XwIvO53Xw
  JvO53XwKvO53XwLvO53XwMvO53XwNvO53XwOvO53XwPvO53XwQvO53XwRvO53XwSvO53XwTvO53XwUvO53XwVvO53Xx0vO53
  Xx1053Xx2053Xx3vO53Xx4vO53Xx5vO53Xx6vO53Xx7vO53Xx8vO53Xx9vO53XxAvO53XxBvO53XxCvO53XxDvO53XxEvO53
  XxFvO53XxGvO53XxHvO53XxIvO53XxJvO53XxKvO53XxLvO53XxMvO53XxNvO53XxOvO53XxPvO53XxQvO53XxRvO53XxSvO
  53XxTvO53XxUvO53XxVvO53Xy0vO53Xy1053Xy2053Xy3053Xy4yE12Xy5yE12Xy6vO53Xy7vO53Xy8y612Xy9053XyAvS15
  XyBy915XyCv653XyDyF12XyEyF12XyF053XyG053XyH053XyIyG15XyJyC15XyKyH15XyLyI15XyM053XyN053XyO053XyPy
  J15XyQyK15XyRyL15XySyM15XyT053XyU015XyV015Xz0053Xz1053Xz2vO53Xz3053Xz4053Xz5053Xz6053Xz7012Xz801
  2Xz9012XzA053XzB053XzC053XzD053XzE053XzFvO53XzGvO53XzHvO53XzIvO53XzJvO53XzKvO53XzLvO53XzMvO53XzN
  vO53XzOvO53XzPvO53XzQvO53XzRvO53XzSvO53XzTvO53XzUvO53XzVvO53X-0vO53X-1vO53X-2vO53X-3vO53X-4vO53X
  -5vO53X-6vO53X-7vO53X-8vO53X-9vO53X-AvO53X-BvO53X-CvO53X-DvO53X-EvO53X-FvO53X-GvO53X-HvO53X-IvO5
  3X-JvO53X-KvO53X-L054X-MvO53X-NvO53X-OyN53X-PyE12X-Qn512X-Rn512X-SyE12X-TyE12X-UyF12X-VyO15X_0yP
  15X_1yQ15X_2yR15X_3yS15X_4yT15X_5yU15X_6yV15X_7z015X_8z115X_9z215X_Az315X_Bz415X_Cz515X_Dz615X_E
  z715X_Fn612X_Gn612X_Hn612X_In612X_Jn612X_Kn612X_Ln612X_Mn612X_N093X_On612X_Pn612X_QvO53X_R053X_S
  053X_T053X_U053X_V053YW0065YW1yE12YW2065YW3z812YW4065YW5065YW6065YW7065YW8065YW9065YWA065YWB065Y
  WC065YWD065YWE065YWF065YWG065YWH065YWI065YWJ065YWK065YWL065YWM065YWN053YWOw553YWP065YWQ053YWR053
  YWS053YWT053YWU053YWV053YX0053YX1053YX2012YX3012YX4z912YX5062YX6062YX7zA12YX8zA12YX9062YXA062YXA
  062YXB062YXC062YXDw753YXEzB12YXFzB12YXGzB12YXHzC12YXIzD12YXJzD12YXK012YXL012YXMzE12YXNzF12YXOzF1
  2YXPzG12YXQ012YXRzB12YXSzD12YXTwV12YXUvS12YXVx112YY0zF12YY1x412YY2yD12YY3zH12YY4x812YY5zG12YY6xB
  12YY7zI12YY8xG12YY9zJ12YYAxJ12YYBxL12YYCzK12YYDzL12YYEzM12YYFy212YYGy312YYHy412YYIy512YYJzN12YYK
  xN12YYLxO12YYMxP12YYNxQ12YYOzO12YYPn412YYQy612YYRzP12YYSzQ12YYTwA12YYUzR12YYVzS12YZ0vU12YZ1zT12Y
  Z2zT12YZ3zT12YZ4zT12YZ5n712YZ6zP12YZ7zU12YZ8zT12YZ9zT12YZAzT12YZBzT12YZCzV12YZDyE12YZE012YZFzB12
  YZGw812YZHwS12YZIzD12YZJwC12YZKyA12YZL-012YZMx212YZNwJ12YZOx512YZPyD12YZQ-112YZR-212YZSx912YZTxA
  12YZU-312YZVxI12Ya0zT12Ya1012Ya2012Ya3012Ya4012Ya5012Ya6yE12Ya7zB12Ya8wP12Ya9-412YaAwR12YaBzD12Y
  aCwV12YaDy912YaEy912YaFyA12YaG-512YaH-612YaIx112YaJzF12YaKx412YaLyC12YaMyC12YaNyD12YaO-712YaP-81
  2YaQ-912YaR-A12YaS-B12YaT-C12YaUx812YaVzG12Yb0xB12Yb1yP12Yb2yP12Yb3zI12Yb4-D12Yb5-E12Yb6-F12Yb7-
  G12Yb8-H12Yb9-I12YbA-J12YbB-K12YbC-L12YbDxG12YbEzJ12YbFxJ12YbG-M12YbH-N12YbI-O12YbJ-P12YbKxL12Yb
  LzK12YbMzL12YbNwI12YbOy212YbPy312YbQy412YbRy512YbSzN12YbTx012YbUxN12YbVxO12Yc0xP12Yc1xQ12Yc2zO12
  Yc3-Q12Yc4tT72Yc5-R72Yc6-S72Yc7072Yc8072Yc9072YcA072Yc9072YcA072YcB072YcC072YcB072YcC072YcD072Yc
  E072YcD072YcE072YcF072YcG072YcG072YcG072YcH072YcH072YcH072YcI072YcI072YcI072YcJ072YcK072YcK072Yc
  K072YcL072YcL072YcL072YcM072YcM072YcM072YcN-T72YcOu112YcP072YcQ072YcRu112YcS072YcT072YcU072YcV01
  2Yd0012Yd1012Yd2012Yd3012Yd4012Yd5012Yd6012Yd7015Yd8015Yd9tQ75YdA-U75YdB-V75YdC012YdD_012YdE_112
  YdF012YdG012YdH012YdI012YdJ022YdK012YdL012YdM012YdN012YdO012YdP012YdQ012YdR012YdS012YdT012YdU012
  YdV012Ye0012Ye1012Ye2012Ye3012Ye4012Ye5012Ye6012Ye7012Ye8012Ye9012YeA012YeB012YeC012YeD012YeE_21
  2YeF_312YeG_412YeH_512YeI012YeJ012YeK012YeL012YeM012YeN012YeO012YeP012YeQu015YeR075YeS075YeT075Y
  eU075YeT075YeU075YeV075Yf0075YeV075Yf0075Yf1075Yf2075Yf1075Yf2075Yf3075Yf4075Yf4075Yf4075Yf5075Y
  f5075Yf5075Yf6075Yf6075Yf6075Yf7075Yf8075Yf8075Yf8075Yf9075Yf9075Yf9075YfA075YfA075YfA075YfB_676
  YfC_776YfD_876YfE022YfF_912YfG_A12YfH_B12YfI_C12YfJ022YfK_D12YfL_E12YfM_F12YfN_G12YfO022YfP_H12Y
  fQ_I12YfR_J12YfS_K12YfT022YfU_L12YfV_M12Yg0_N12Yg1_O12Yg2022Yg3022Yg4022Yg5022Yg6022Yg7_P12Yg8_Q
  15Yg9012YgA_R12YgB012YgC_S15YgD_T15YgE_U15YgF_V15YgG012YgHXW015YgIXW115YgJXW215YgKXW315YgLXW415Y
  gMXW515YgNXW615YgOXW715YgPXW815YgQXW915YgRXWA15YgSXWB15YgTXWC15YgUXWD15YgVXWE15Yh0XWF15Yh1XWG15Y
  h2XWH15Yh3XWI15Yh4XWJ15Yh5XWK15Yh6u015Yh7XWL12Yh8_V15Yh9XWM12YhA_V15YhBXWN12YhC_V15YhDXWO12YhEXW
  P12YhFXWQ12YhGXWR12YhHXWS15YhI012YhJ012YhK012YhLXWT15YhMXWU15YhN012YhO012YhPXWV15YhQXX015YhR012Y
  hS012YhT012YhU012YhVXX115Yi0XX215Yi1XX315Yi2XX415Yi3XX515Yi4012Yi5XX616Yi6XWK15Yi7XX715Yi8075Yi9
  075YiA075YiB075YiC075YiD015YiE015YiF015YiG015YiH015YiI015YiJ015YiK015YiL075YiM075YiN075YiO076YiP
  076YiQ076YiR076YiQ076YiR076YiS076YiT076YiS076YiT076YiU076YiV076YiU076YiV076Yj0076Yj1076Yj1076Yj1
  076Yj2076Yj2076Yj2076Yj3076Yj3076Yj3076Yj4076Yj5076Yj5076Yj5076Yj6076Yj6076Yj6076Yj7076Yj7076Yj7
  076Yj8_P12Yj9tV12YjA_112YjBXX815YjCXX915YjDXXA15YjEXXB15YjFXXC15YjGXXD15YjHXXE15YjCXXF15YjIv612Y
  jJXXG15YjKXXH15YjLXXI15YjLXXJ15YjLXXK15YjLXXL15YjMXXM15YjGXXN15YjNXXO15YjOXXP15YjOXXQ15YjOXXR15Y
  jOXXS15YjOXXT15YjOXXU15YjPXXV15YjMXY015YjQXY115YjRXY215YjRXY315YjRXY415YjRXY515YjSXY615YjPXY715Y
  jTXY815YjSXY915YjU015YjV015Yk0015Yk1015Yk2015Yk3015Yk4015Yk5015Yk6015Yk7015Yk8015Yk9XYA16YkAXX61
  6YkBn615YkCn515YkDn615YkEn615YkFn615YkGtT72YkH-R72YkI-S72YkJXYB12YkKXXE15YkL015YkM015YkN015YkOv6
  15YkP015YkQ015YkR015YkS015YkT015YkU015YkV015Yl0015Yl1015Yl2015Yl3015Yl4015Yl5015Yl6015Yl7015Yl80
  15Yl9015YlA015YlB015YlC015YlDXYA16YlE015YlF015YlG015YlH015YlI015YlJ015YlK015YlL015YlM015YlN015Yl
  O015YlP015YlQ015YlR015YlS015YlT015YlU015YlV015Ym0015Ym1015Ym2015Ym3015Ym4015Ym5015Ym6015Ym7015Ym
  8015Ym9015YmA015YmBXYC16YmC076YmD076YmE076YmF076YmG076YmH076YmI016YmJ016YmK016YmL016YmM016YmN016
  YmO016YmP016YmQ076YmR076YmSu112YmTXYD12YmUXYE12YmVXYD12Yn0XYF12Yn1XYG12Yn2XYF12Yn3XYH12Yn4012Yn5
  XYI12Yn6XYJ15Yn7XYK15Yn8XYI12Yn9015YnA016YnB015YnC016YnD016YnEXYL15YnFXYM15YnG016YnH016YnI016YnJ
  016YnK016YnLXYN12YnMXYO12YnNu112YnOXYD12YnP_112YnQXYF12YnRXYD12YnSXYF12YnTXYP12YnUXYQ12YnV012Yo0
  n512Yo1XYR12Yo2012Yo3XYS12Yo4012YnTXYT12Yo5XYU12YnUXYV12Yo6012Yo7012Yo1XZ012Yo8XYJ15Yo9XYK15YoAX
  Z112YoB012YoCXZ215Yo3XZ312YoDXYU12YoEXZ415YoFXZ515YoGXZ615YoHXZ715YoIXYI12YoJXZ815YoKXZ915YoLXZA
  15YoMXZB15YoNXZC15YoOXZD15YoPXZE15YoQXZF15YoRXZG15YoSXZH15YoTXZI15YoUXZJ15YoVXZK15Yp0XZL15Yp1XZM
  15Yp2XZN15Yp3XZO15Yp4XZP15Yp5XZQ15Yp6XZR15Yp7XZS15Yp8XZT15Yp9XZU15YpAXZV15YpBXa015YpCXa115YpDXa2
  15YpEXa315YpFXa415YpGXa515YpHXa615YpIXa715YpJXa815YpKXa915YpLXaA15YpMXaB15YpNXaC15YpOXaD15YpPXaE
  15YpQXaF15YpRXaG15YpSXaH15YpTXaI15YpUXaJ15YpVXaK16Yq0XaL16Yq1n612Yq2016Yq3016Yq4016Yq5n612Yq6016
  Yq7n612Yq8016Yq9016YqA016YqB016YqC016YqD016YqE016YqFn612YqG016YqH016YqI016YqJ016YqK016YqL016YqM0
  16YqN016YqO016YqP016YqQ016YqR016YqS016YqT032YqU016YqV016Yr0016Yr1016Yr2016Yr3016Yr4016Yr5016Yr60
  16Yr7032Yr8016Yr9016YrA016YrB016YrC016YrD016YrE016YrF032YrG016YrH016YrI016YrJ016YrK016YrL016YrM0
  16YrN016YrO016YrP016YrQ016YrR016YrS016YrT016YrU016YrVn612Yo1XaM12YnUXaN12YoAXaO12Ys0u112YnUXaP12
  Yo1XaQ12YnUXaR12YoAXaS12YnUXaT12Yo1XaU12Yo1XaV12Ys1_112Ys2tM12Ys3XYK15Ys4Xb012Ys5Xb1A7Ys6Xb2A2Ys
  7XYU12Ys6Xb3A2Ys6Xb4A2Ys6Xb5A2Ys8015Ys9015YsA015Ys6Xb6A2Ys6Xb7A2Ys6Xb8A2Ys6Xb9A2Ys6XbAA2YsB016Ys
  CXbB15YsDXbB15YsE012YsF012YsG072YsH072YsI072YsJXbC12YsKXbDA7YsLw712YsMXbE12YsNXb1A7YsOXbF12YsPXb
  1A7YsQXbG12YsRXb1A7YsSXb1A7YsTXbDA7YsUXbHA7YsVtR12Yt0XbI12Yt1_012Yt2012Yt3012Yt4012Yt5XbJ12Yt6Xb
  K12Yt7XbL72Yt5tM12Yt8XbM12Yt9XbK12YtAXYK15YtB012YtCXbN12YtDXbO12YtEXbP12YtF012YtGtN12YtHXbQ32YtI
  XbR12YtJXYG12YtK012YtLXbP12YtM015YtN015Yt5XbS12YtOXbT12YtPtP12YtQXbU12YtRXbV12YtSXc012YtTXc172Yt
  DXc212YtUXc312YtVXbM12YtDXc412Yu0015Yu1Xc512Yu2Xc615Yu3Xc715Yu4Xc872Yu5Xc912Yu6XcA32YtRXcB12YtUX
  cC12Yu7zA12Yu8012YtDXcD12Yu1XcE12Yu9XcF15YuAXcG15YuBXcH15YuCXcI15Yu5XcJ12YuDXcK15YuEXcL15YuEXcM1
  5YuEXcN15YuEXcO15YuEXcP15YuEXcQ15YuEXcR15YuEXcS15YuEXcT15YuEXcU15YuFXcV15YuGXd015YuHXd115YuHXd21
  5YuHXd315YuHXd415YuHXd515YuHXd615YuHXd715YuHXd815YuHXd915YuHXdA15YuHXdB15YuHXdC15YuHXdD15YuHXdE1
  5YuHXdF15YuHXdG15YuHXdH15YuHXdI15YuHXdJ15YuHXdK15YuHXdL15YuHXdM15YuHXdN15YuHXdO15YuHXdP15YuHXdQ1
  5YuHXdR15YuHXdS15YuIXdT15YuJXdU15YuJXdV15YuJXe015YuJXe115YuJXe215YuJXe315YuJXe415YuJXe515YuJXe61
  5YuJXe715YuJXe815YuJXe915YuJXeA15YuJXeB15YuJXeC15YuJXeD15YuJXeE15YuJXeF15YuJXeG15YuJXeH15YuJXeI1
  5YuJXeJ15YuJXeK15YuJXeL15YuJXeM15YuJXeN15YuJXeO15YuJXeP15YuJXeQ15YuJXeR15YuJXeS15YuJXeT15YuJXeU1
  5YuJXeV15YuJXf015YuJXf115YuJXf215YuJXf315YuKXf415YuLXf515YuLXf615YuLXf715YuLXf815YuLXf915YuLXfA1
  5YuLXfB15YuLXfC15YuLXfD15YuLXfE15YuLXfF15YuLXfG15YuLXfH15YuLXfI15YuLXfJ15YuLXfK15YuLXfL15YuLXfM1
  5YuLXfN15YuLXfO15YuLXfP15YuLXfQ15YuLXfR15YuMXfS15YuMXfT15YuMXfU15YuMXfV15YuN015YuO015YuP015YuQ01
  5YuR015YuSXg015YuTXg115YuUXg215YuVXg315Yv0Xg415Yv1Xg515Yv2Xg615Yv3Xg715Yv4Xg815Yv5Xg915Yv6XgA15Y
  v7XgB15Yv8XgC15Yv9XgD15YvA015YvB015YvC015YvD015YvEXbB15YvF015YvG015Yu4XgE72Yu1XgF12YvHtS12YvIXgG
  32YvJXgH12YtDXgI12YvKXgJ72Yu1XgK12YtUXgL12Yu1XgM12Yt7XgN72YtUXgO12YvL012YtDXgP12YtUXgQ12Yu1XgR12
  YtUXgS12YtDXgT12YtTXgU72Yu4XgV72YtDXh012YvMXh172Yu4Xh272YvNXh372Yt7Xh472YvOXh572Yu4Xh672YvPXh772
  YvQXh872Yt5Xh912Yt5tR12YvRXhA12YvSXhB12YvTXc172YvU012YvV012Yw0012Yw1012Yw2012Yw3012Yw4012Yw5012Y
  w6012Yw7XbK12Yw8XbP12Yw9012YwA012YwB012YwC012YwDXbK12YwE012YwFXbP12YwGXhCA7YwHXhD12YwIu212YwJXhE
  12YwJtN12YwKXhF12YwLXhG12YwMXhHA7YwNXhI12YwO012YwPXhJ12YwQXhF12YwRXhK12YwSXhL12YwTXhM12YwUXhN12Y
  wVXhO15Yx0012Yx1XhHA7Yx2tU12Yx3XhP12Yx4012Yx5XhN12Yx6XhQ12Yx7XhR12Yx8u312Yx9XhS12YxAXhT12YxBXhU1
  6YxCXhV12YxDXi015YxDXi115YxE012YxF012YxGXi232YxHXi312YxIXhQ12YxJXi416YxKXi512YxLXi612YxMXi716YxN
  Xi115YxOXi812YxPXi115YxQXi912YxRXiA16YxSXiB16YxTXiC12YxUXiD12YxVXiE12Yy0XiF32Yy1XiG12Yy2XiH16Yy3
  XiI16Yy4XiJ12Yy5XiK12Yy6XiL12Yy7XiM12Yy8XiN16Yy9XiO16YyAXiP12YyBXiQ12YyCXiR16YyDXiS16YyEXiT12YyF
  XiU12YyGXiV16YyHXj016YyIXj116YyJ016YyK016YyL016YyM016YyN015YyO015YyP015YyQ015YyR012YyS012YyT012Y
  yU012YyV012Yz0Xj2A7Yz1Xj312Yz1tS12Yz2Xj412Yz3XhHA7Yz4Xj515Yz5tU12Yz6Xj612Yz7Xj715Yz7Xi115Yz8012Y
  z9012YzAXj812YzBXi115YzC012YzD012YzE012YzF012YzGXj912YzHXjA12YzIXjB12YzJ012YzKXjC12YzLXjD12YzMXj
  E15YzNXjF15YzNXi115YzOXi115YzPXjG12YzQXjH15YzRXjI15YzRXi115YzSXi115YzTXjJ12YzUXjK15YzVXjL15YzVXi
  115Y-0Xi115Y-1XjM12Y-2XjN15Y-3XjO15Y-3Xi115Y-4Xi115Y-5u212Y-6XjP12Y-7XjQ12Y-8012Y-9012Y-A012Y-BX
  jR12Y-CXjS12Y-DXjT12Y-EXjU12Y-FXjV12Y-GXk012Y-HXk112Y-IXk112Y-JXhF12Y-KXhN12Y-LXhF12Y-MXhN12Y-NX
  k212Y-Ou212Y-P012Y-Q012Y-R012Y-SXk312Y-TXk4A8Y-UXk512Y-V072Y_0u212Y_1Xk612Y-SXk712Y_2012Y_3Xk812
  Y_3Xk912Y_4XkA12Y_5XkB15Y_6012Y_7012Y-SXkC12Y_3XkD12Y_8XkE16Y_9015Y_AXhD12Y_BXkFA8Y_C012Y_DXkG22
  Y_EXkH12Y-SXkI12Y_3XkJ12Y_FXkK16Y_G015Y_3XkL12Y_3XkM12Y_3XkN12Y_H012Y_I012Y_I012Y_I012Y_JXkO15Y_
  3XkP12Y_KXkQ16Y_L015Y_M015Y_NXkR12Y_OXhD12Y_PXhI12Y_Q012Y_R012Y_SXkFA8Y_T012Y_U012Y_VXkS12ZW0XkT
  12Y_3XkU12ZW1XkV16ZW2015Y_3Xl012Y_3Xl112ZW3015ZW4012ZW5012ZW5012ZW5012Y-SXl212ZW6Xl315ZW7Xl415ZW
  8Xl515ZW9Xl612ZWA015ZWB015ZWC015ZWD015ZWE015ZWF015ZWGXhI12ZWH012Y_3Xl712ZWI012ZWJ012ZWK015Y-SXl8
  12ZWLXl915ZWMXlA15ZW9XlB12ZWNXlC15ZWNXlD15ZWNXlE15ZWNXlF15ZWNXlG15ZWOXlH15ZWOXlI15ZWNXlJ15ZWNXlK
  15ZWP015ZW9XlL12ZWQ015ZWR015ZWS015ZWT015ZWU015ZWV015ZX0XlM32Y_3XlN12Y-SXlO12ZX1XlP15ZX2XlQ15ZX30
  15ZW9XlR12ZX4XlS15ZX5XlT15ZX5XlU15ZX4XlV15ZX4Xm015ZX5Xm115ZX5Xm215ZX4Xm315ZX4Xm415ZX4Xm515ZX4Xm6
  15ZX5Xm715ZX5Xm815ZX4Xm915ZX4XmA15ZX4XmB15ZX5XmC15ZX5XmD15ZX5XmE15ZX5XmF15ZX4XmG15ZX4XmH15ZX4XmI
  15ZX4XmJ15ZX4XmK15ZX5XmL15ZX5XmM15ZX4XmN15ZX4XmO15ZX5XmP15ZX5XmQ15ZX6015ZW9XmR12ZX7015ZX8015ZX90
  15ZXA015Y_3XmS12ZXB015ZXC015ZXD015Y-SXmT12ZXEXmU15ZXFXmV15ZW9Xn012ZXGXn115ZXGXn215ZXHXn315ZXGXn4
  15ZXGXn515ZXGXn615ZXGXn715ZXHXn815ZXGXn915ZXGXnA15ZXHXnB15ZXHXnC15ZXGXnD15ZXGXnE15ZXHXnF15ZXGXnG
  15ZXGXnH15ZXGXnI15ZXGXnJ15ZXHXnK15ZXHXnL15ZXHXnM15ZXHXnN15ZXGXnO15ZXGXnP15ZXHXnQ15ZXHXnR15ZXGXnS
  15ZXGXnT15ZXGXnU15ZXGXnV15ZXHXo015ZXGXo115ZXGXo215ZXHXo315ZXHXo415ZXGXo515ZXGXo615ZXHXo715ZXHXo8
  15ZXHXo915ZXHXoA15ZXGXoB15ZXGXoC15ZXHXoD15ZXHXoE15ZXGXoF15ZXGXoG15ZXGXoH15ZXGXoI15ZXHXoJ15ZXGXoK
  15ZXGXoL15ZXGXoM15ZXGXoN15ZXI015ZW9XoO12ZXJ015ZXK015ZXL015Y_3XoP12Y-SXoQ12ZXM015ZXN015ZXOXoR15ZX
  PXoS15ZXQXoT15ZXQXoU15ZXQXoV15ZXQXp015ZXRXp115ZXQXp215ZXQXp315ZXQXp415ZXQXp515ZXQXp615ZXQXp715ZX
  RXp815ZXQXp915ZXQXpA15ZXRXpB15ZXRXpC15ZXQXpD15ZXQXpE15ZXRXpF15ZXQXpG15ZXQXpH15ZXQXpI15ZXQXpJ15ZX
  RXpK15ZXQXpL15ZXQXpM15ZXQXpN15ZXQXpO15ZXQXpP15ZXQXpQ15ZXRXpR15ZXQXpS15ZXQXpT15ZXQXpU15ZXQXpV15ZX
  RXq015ZXQXq115ZXQXq215ZXRXq315ZXRXq415ZXQXq515ZXQXq615ZXRXq715ZXQXq815ZXQXq915ZXQXqA15ZXQXqB15ZX
  RXqC15ZXQXqD15ZXQXqE15ZXQXqF15ZXQXqG15ZXQXqH15ZXQXqI15ZXS015ZW9XqJ12ZXT015ZXU015ZXV015ZY0015ZY1X
  qK15Y-SXqL12ZY2XqM15ZY2XqN15ZY2XqO15ZY2XqP15ZY3XqQ15ZY2XqR15ZY2XqS15ZY2XqT15ZY2XqU15ZY2XqV15ZY2X
  r015ZY2Xr115ZY2Xr215ZY2Xr315ZY2Xr415ZY2Xr515ZY2Xr615ZY3Xr715ZY2Xr815ZY2Xr915ZY2XrA15ZY2XrB15ZY2X
  rC15ZY2XrD15ZY2XrE15ZY2XrF15ZY4015ZW9XrG12ZY5015ZY6XrH15ZY6XrI15ZY6XrJ15ZY6XrK15ZY7015ZY8015ZY90
  15ZY8015ZYA015ZYB015ZYC016ZYD015ZYE015ZYF012ZYG012ZYH015ZYI015ZYJ015ZYK015ZYL015ZYM016ZYN016ZYO0
  16ZYP015ZYQ015ZYQ015ZYR015ZYS015ZYT015ZYU012ZYV015ZZ0015ZZ1015ZZ2015ZZ2015ZZ2015ZZ3015ZZ4015ZZ50
  15ZZ6015ZZ7015ZZ8015ZZ8015ZZ9015ZZA015ZZB015ZZC015ZZD015ZZE015ZZF015ZZF015ZZF015ZZG015ZZH015ZZI0
  15ZZJ015ZZK015ZZL015ZZM015ZZM015ZZN015ZZO015ZZP015ZZQ015ZZR015ZZS015ZZT015ZZU015ZZV015Za0015Za10
  15Za2015Za3015Za4015Za5015Za6015Za7015Za8015Za9015ZaA015ZaB015ZaC015ZaD032ZaE032ZaFXrL12ZaGXrMA8
  ZaHXrN12ZaIXrO16ZaJXhD12ZaKXkFA8ZaLXrP22ZaMXrQ16ZaN015ZaOXrR16ZaPXhD12ZaQXhI12ZaRXrS12ZaSXrT16Za
  T015ZaU015ZW9XrU12ZaVXhI12Zb0015Zb1015ZW9XrV12Zb2015Zb3015ZW9Xs012ZW9Xs112ZW9Xs212ZW9Xs312Zb4Xs4
  A8Zb5Xs516Zb6XkFA8Zb7Xs616Zb8Xs7A8Zb9XkFA8ZbAXs8A8ZbBXkFA8Y-SXs912ZbCu212Y-SXsA12Y_3XsB12Y-SXsC1
  2Y_3XsD12Y-SXsE12Y_3XsF12Y_3XsG12Y_3XsH12Y_3XsI12Y_3XsJ12Y_3XsK12Y_3XsL12Y_3XsM12Y_3XsN12Y_3XsO1
  2Y-SXsP12ZbDu212Y-SXsQ12Y_3XsR12Y_3XsS12ZbEu212ZbFXhD12Y_3XsT12ZbGXhD12ZbHXhI12Y_3XsU12ZbIXhI12Z
  bJ072ZbKXsVB9ZbLXt0C9ZbMXt115ZbNXt215ZbOXt315ZbP072ZbQu212ZbRXt415ZbSXt515ZbTXt612Y_3Xt712ZbUXt8
  B9ZbVXt9C9Zc0XtA15Zc1XtB15Zc2XtC15Zc3XtD15Zc4XtE15Zc5XtF12Zc6012Zc7012Zc8XtG15Zc9XtG15ZcAXtH12Zc
  B016ZcCXtI12ZcDu212ZcEtT12ZcF012ZcGXtJ12Y_3XtK12ZcHXtL12ZcIXt8B9ZcJXt9C9ZcKXtM12ZcLXtA15ZcMXtN15
  ZcN012ZcOXtG15ZcPXtO12ZcQXtP12ZW9XtQ12ZcRXtR12ZcS0A7ZcT012ZcU012ZcVXtS12Zd0012Zd1XtL12Zd20A7Zd3X
  tT22Zd4XtU12Zd5XtP12Zd6XtV12Zd7Xu022Zd8Xu022Zd9012ZdA012ZdB012ZdCXu022ZdDXu112ZdE012ZdF012ZdG012
  ZdH012ZdI012ZdJXu2B9ZdKXu3C9ZdLXu415ZdM072ZdNXu515ZdOXu615ZdPXu712ZdQXt8B9ZdRXt9C9ZdSXu815ZdTXtG
  15ZdUXtG15ZdVvI12Ze0012Ze1XtL12Ze2012Ze3XtL12Ze4012Ze5Xu9B9Ze6XuAC9Ze7Xt8B9Ze8Xt9C9Ze9tQ12ZeA012
  ZeB012ZeC012ZeDXuBB9ZeEXuCC9ZeFXt8B9ZeGXt9C9ZeHuT12ZeI012ZeJ012ZeK012ZeLXuDB9ZeMXuEC9ZeNXt8B9ZeO
  Xt9C9ZeP_612ZeQ012ZeR012ZeS012ZeTXuFB9ZeUXuGC9ZeVXt8B9Zf0Xt9C9Zf1tT12Zf2XuHB9Zf3XuIC9Zf4Xt8B9Zf5
  Xt9C9Zf6u212Y_3XuJ12Y_3XuK12Zf7012Y_3XuL12Y_3XuM12Y_3XuN12Y_3XuO12Y_3XuP12Y_3XuQ12Zf8012Y_3XuR12
  Y_3XuS12Zf9012ZfA012ZfB012ZfC012ZfD012Y_3XuT12Y_3XuU12ZfE012ZfF012ZfGXuV12ZfH015ZfI015ZfJXt112Zf
  KXv012ZfLXv112ZfMXv212ZfN012ZfOXv312ZfPXv412ZfPXv512ZfOXv612ZfQ012ZfRXv712ZfSXt612ZfTXv812ZfTXv9
  12ZfSXvA12ZfUXvB12ZfVXvC12Zg0012Zg1XvD12Zg2XvE12Zg3XvF12Zg4012Zg5012Zg6XvG12Zg7015Zg8XvH12Zg9012
  ZgA012ZgB012ZgC012ZgDXvI12ZgEXvJ12ZgFXv512ZgGXv612ZgHXv612ZgIXv512ZgJXv512ZgKXv612ZgL015ZgM012Zg
  N012ZgOXvK12ZgPXvL12ZgQ012ZgR012ZgSXv912ZgTXvA12ZgUXv912ZgVXvA12Zh0015Zh1XvM12Zh2012Zh3XtS12Zh4X
  vN12Zh5XvO22Zh6XvP12Zh6XvQ12Zh7015Zh8012Zh9015ZhAXvR12ZhB012ZhCXvS12ZhDXvT12ZhEXvU12ZhF015ZhG015
  ZhH012ZhI015ZhJ015ZhK015ZhL012ZhMXvK12ZhN015ZhOXtS12ZhP012ZhQ012ZhR012ZhS012ZhTXvV12ZhUXvN12Zh5X
  w022ZhVXw112Zi0XvQ12Zi1015Zi2XvR12Zi3Xw212Zi4Xw312Zi5XvU12Zi6Xw412Zi7015Zi8012Zi9Xw512ZiA015ZiB0
  15ZiC015ZiD015ZiE015ZiF012ZiGXvV12ZiH0A8ZfUXtL12ZiIXw612ZiJXw612ZiK015ZiL015ZiM015ZiN015ZiO015Zi
  P015ZiQ015ZiR015ZiR015ZiR015ZiR015ZiR015ZiS015ZiS015ZiT015ZiR015ZiR015ZiU022ZiVXw612Zj0015Zj1015
  Zj2015Zj3015Zj4015Zj5015Zj6015Zj7015Zj8015Zj8015Zj9015Zj7015Zj7015Zj8015Zj8015Zj9015Zj7015Zj7015
  Zj7015Zj7015Zj8015Zj8015Zj9015Zj7015Zj7015Zj7015Zj8015Zj8015Zj9015Zj8015Zj8015Zj9015ZjA015ZjA015
  Zj7015Zj7015Zj7015Zj7015Zj7015Zj8015Zj8015Zj9015Zj7015Zj7015Zj8015Zj8015Zj9015ZjB015ZjC015ZjD015
  ZjE015ZjF015ZjG015ZjH015ZjH015ZjI015ZjJ015ZjJ015ZjK015ZjH015ZjH015ZjI015ZjH015ZjH015ZjI015ZjJ015
  ZjJ015ZjK015ZjH015ZjH015ZjI015ZjK015ZjK015ZjH015ZjH015ZjI015ZjK015ZjH015ZjH015ZjI015ZjH015ZjH015
  ZjI015ZjJ015ZjJ015ZjK015ZjK015ZjK015ZjK015ZjH015ZjH015ZjI015ZjK015ZjK015ZjH015ZjH015ZjI015ZjH015
  ZjH015ZjI015ZjJ015ZjJ015ZjJ015ZjJ015ZjK015ZjH015ZjH015ZjI015ZjK015ZjK015ZjH015ZjH015ZjI015ZjK015
  ZjK015ZjK015ZjK015ZjH015ZjH015ZjI015ZjK015ZjK015ZjH015ZjH015ZjI015ZjH015ZjH015ZjI015ZjJ015ZjJ015
  ZjK015ZjH015ZjH015ZjI015ZjH015ZjH015ZjI015ZjJ015ZjJ015ZjL015ZjM015ZjN015ZjO015ZjP015ZjQ015ZjQ015
  ZjR015ZjR015ZjS015ZjQ015ZjQ015ZjQ015ZjQ015ZjR015ZjR015ZjS015ZjQ015ZjQ015ZjT015ZjR015ZjR015ZjS015
  ZjR015ZjR015ZjS015ZjQ015ZjQ015ZjR015ZjR015ZjS015ZjQ015ZjQ015ZjQ015ZjQ015ZjT015ZjR015ZjR015ZjS015
  ZjT015ZjT015ZjR015ZjR015ZjS015ZjT015ZjR015ZjR015ZjS015ZjR015ZjR015ZjS015ZjQ015ZjQ015ZjT015ZjR015
  ZjR015ZjS015ZjR015ZjR015ZjS015ZjQ015ZjQ015ZjQ015ZjQ015ZjR015ZjR015ZjS015ZjQ015ZjQ015ZjT015ZjR015
  ZjR015ZjS015ZjR015ZjR015ZjS015ZjQ015ZjQ015ZjT015ZjR015ZjR015ZjS015ZjT015ZjT015ZjR015ZjR015ZjS015
  ZjT015ZjR015ZjR015ZjS015ZjR015ZjR015ZjS015ZjQ015ZjQ015ZjT015ZjR015ZjR015ZjS015ZjR015ZjR015ZjS015
  ZjQ015ZjQ015ZjQ015ZjQ015ZjR015ZjR015ZjS015ZjQ015ZjQ015ZjQ015ZjQ015ZjU015ZjV015Zk0015Zk1015Zk1015
  Zk1015Zk1015Zk2015Zk2015Zk3015Zk1015Zk1015Zk1015Zk1015Zk1015Zk1015Zk2015Zk2015Zk3015Zk1015Zk1015
  Zk4015Zk2015Zk2015Zk3015Zk2015Zk2015Zk3015Zk1015Zk1015Zk2015Zk2015Zk3015Zk1015Zk1015Zk1015Zk1015
  Zk2015Zk2015Zk3015Zk1015Zk1015Zk1015Zk1015Zk1015Zk1015Zk2015Zk2015Zk3015Zk1015Zk1015Zk1015Zk1015
  Zk2015Zk2015Zk3015Zk1015Zk1015Zk4015Zk2015Zk2015Zk3015Zk2015Zk2015Zk3015Zk1015Zk1015Zk2015Zk2015
  Zk3015Zk1015Zk1015Zk1015Zk1015Zk2015Zk2015Zk3015Zk1015Zk1015Zk1015Zk1015Zk1015Zk1015Zk5015Zk6015
  Zk6015Zk6015Zk6015Zk7015Zk7015Zk8015Zk6015Zk6015Zk6015Zk6015Zk6015Zk6015Zk6015Zk6015Zk6015Zk6015
  Zk6015Zk6015Zk7015Zk7015Zk8015Zk6015Zk6015Zk6015Zk6015Zk6015Zk6015Zk6015Zk6015Zk9015Zk9015Zk9015
  Zk9015ZkAXw712ZkB022ZkCXw712ZkD022ZkE022ZkF022ZkG022ZkHXw812ZkIXw912ZkJXwA12ZkJXv512ZkIXv612ZkKX
  wB12ZkLXu712ZkMXwC12ZkMXv912ZkLXvA12ZkNXwD12ZkOXwE12ZkP012ZkQXv512ZkRXv612ZkSXv612ZkTXv512ZkUXvK
  12ZkVXv912Zl0XvA12Zl1XwF12Zl2012Zl3XtS12Zl4XvN12Zl5XwG22Zl6XwH12Zl6XvQ12Zl7015Zl8015Zl9XvV12Zl5X
  wI22ZlAXwJ12ZlBXvQ12ZlCXw612ZlDXw612ZlEXwK12ZlEXv512ZlFXwL12ZlGXwM12ZlHXv512ZlIXv512ZlJXvK12ZlKX
  wN12ZlL012ZlMXtS12ZlNXwO12ZlNXvQ12ZlO012ZlP012ZlQ012ZlR012ZlSXvV12ZlTXvQ12ZlUXwP12ZlVXwQ12Zm0012
  Zm1XtS12Zm2XwR12Zm2XvQ12Zm3XvV12Zm4XvQ12Zm5XwS12Zm6XwT12Zm7012Zm8XtS12Zm9XwU12Zm9XvQ12ZmA012ZmB0
  12ZmC012ZmD012ZmEXvV12ZmFXvQ12ZmGXtS12ZmHXwV12ZmHXvQ12ZmIXvQ12ZmJXx012ZmJXvQ12ZmKXvQ12ZmLXx112Zf
  JXu412ZmMXx212ZfUXx312ZmNXvD12ZmOXx412ZmPnM12ZmQXvQ12ZmR012ZmSXvD12ZmTXx512ZmU012ZmV012Zn0012Zn1
  Xx612Zn1Xx712Zn1Xx812Zn1Xx912Zn2XxA12Zn3015Zn4015Zn5XxB12Zn6012Zn7Xt112Zn7XxC12Zn8012Zn9XxD12ZnA
  XxE12ZnB015ZnC015ZnD015ZnE015ZnFXxF12ZnGXxG12Zn5XxH12Zn2XxI12ZnHXxJ12ZnI012ZnJ012ZnKw712ZnL012Zn
  M015ZnN012Zn7XxK12ZnO012ZnPXxL12ZnQ015ZnR015ZnS012ZnT012Zn2Xg012ZnUXxM12ZnHXxN12ZnV012Zo0XxO12Zn
  2XxP12Zo1012Zo2XxQ12ZnFXxR12ZnGXxS12ZnGXxT12Zn5XxU12Zo3XkR12Zn5XxV12Zo4012Zo5012Zo6012Zo7012Zo8X
  y012ZnKXy112Zo9012ZoA012ZoB012ZnFXy212ZoC015ZoDXvJ12ZoE015ZoFXy312ZoG015ZoH015ZoI012ZoJ015ZoK015
  Zn2Xg112ZoL012Zn2Xg212ZoM012ZnFXy412ZnGXy512ZoN012ZoO012ZoP012ZoQXy612ZoRXy712Zo2Xy812ZnGXy912Zo
  SXyA12ZoTXyB12ZoU012ZoV012Zp0012Zp1012Zp2012Zn5XyC12Zp3012Zo3XyD12Zp4012Zp5012Zp6012Zn5XyE12Zp70
  12Zp8XyF12Zo2XyG12ZnFXyH12Zp9012ZpA012ZoFXyI12ZpBXyJ12ZoFXyK12ZpC015ZpD012ZpE012ZpF012ZpG015Zn2X
  g312ZpH012Zn2Xg412ZpI012ZnFXyL12ZnGXyM12ZnGXyN12ZnFXyO12ZpJ012ZpK012ZoQXyP12ZoQXyQ12ZoSXyR12ZoTX
  yS12ZpL012ZpM012ZpN012Zp8XyT12ZpO012Zo2XyU12Zp8XyV12ZpP012ZpBXz012ZoFXz112ZpQ012ZpR012ZpS015ZpT0
  12Zn2Xg512ZpU012Zn2Xg612ZnGXz212ZnFXz312ZpV012ZoQXz412Zn2Xz512Zq0012Zq1012Zp8Xz612Zq2012Zn2Xg712
  Zq3012Zn2Xg812Zn2Xz712Zq4012Zn2Xg912Zq5012Zn2XgA12Zq6012Zn2XgB12Zq7012Zn2XgC12Zq8012Zn2XgD12Zq90
  12ZqA012ZqB015ZqC015ZqD015ZqEXz812ZoQXz912ZqFXzA12ZpBXzB12ZqGXzC12ZqH012ZqI012ZqJv612ZqK015ZqLXh
  U12ZqGXzD12ZnFXzE12ZoQXzF12ZqFXzG12ZqFXzH12ZqM012ZqN012ZqO012ZqPXzI12ZqJXzJ12ZoQXzK12ZqQ015ZqR01
  5ZoFXzL12ZqLXi412ZqLXi712ZoQXzM12ZqFXzN12ZnFXzO12ZqFXzP12ZnGXzQ12ZqS012ZqT012ZqU012ZqV012Zr0012Z
  oFXzR12ZnFXzS12ZoQXzT12ZoFXzU12ZoFXzV12ZqLXiA12ZqLXiB12ZoQX-012ZqFX-112ZqFX-212ZoQX-312ZnGX-412Z
  oFX-512ZnFX-612ZoFX-712ZoFX-812ZqLXiH12ZqLXiI12ZqFX-912ZoQX-A12ZoFX-B12ZqLXiN12ZqLXiO12ZqLXiR12Z
  qLXiS12ZqLXiV12ZqLXj012ZqLXj112ZoTX-C12ZnFX-D12Zr1012Zr2012Zr3012ZnFX-E12ZnGX-F12Zr4012Zr5012Zr6
  012Zr7012Zr8012ZnFX-G12ZnGX-H12ZnFX-I12Zr9012ZrA012ZrB012ZrC012ZrD012ZrE012ZrF012ZrG012ZrH012ZrI
  012ZrJ012ZrK012ZrL012ZrM012ZrN012ZrO012ZrP012ZrQ012Zn1X-J12Zn1X-K12Zn1X-L12Zn7Xu412ZnAX-M12Zn5X-
  N12Zn5X-O12Zn5X-P12ZrRX-Q12Zn5X-R12Zn5X-S12ZpBX-T12ZpBX-U12Zn5X-V12Zn5X_012Zn5X_112Zn5X_212Zn5X_
  312Zn5X_412Zn5X_512Zn5X_612Zn5X_712ZrS012Zn5X_812ZrT012Zn5X_912Zn5X_A12Zn5X_B12Zn5X_C12Zn5X_D12Z
  n5X_E12Zn5X_F12ZrU0DAZrV012Zs0012Zs1012Zs2012Zs3012Zs4012Zs5012Zs6012Zs7012Zs8012Zs9012ZsA012ZsB
  012ZsC012ZsD012ZsE012ZsF012ZsG012ZsH012ZsI012ZsJ012ZsK012ZsL012ZsM0E2ZsN012ZsO012ZsP012ZsQ012ZsR
  012ZsS012ZsT012ZsU012ZsV012Zt0012Zt1012Zt2012Zt3012Zt4012Zt5012Zt6012Zt7012Zt8012Zt9012ZtA012ZtB
  012ZtC012ZtD012ZtE012ZtF012ZtG012ZtH012ZtI012ZtJ012ZtK012ZtL012ZtM012ZtN012ZtO012ZtP012ZtQ012ZtR
  012ZtS012ZtT012ZtU012ZtV012Zu0012Zu1012Zu2012Zu3012Zu4012Zu5012Zu6012Zu7012Zu8012Zu9012ZuA012ZuB
  012ZuC012ZuD012ZuE012ZuF012ZuG012ZuH012ZuI012ZuJ012ZuK012ZuL012ZuM012ZuN012ZuO012ZuP012ZuQ012ZuR
  012ZuS012ZuT012ZuU012ZuV012Zv0012Zv1012Zv2012Zv3012Zv4012Zv5012Zv6012Zv7012Zv8012Zv9012ZvA012ZvB
  012ZvC012ZvD012ZvE012ZvF012ZvG012ZvH012ZvI012ZvJ012ZvK012ZvL012ZvM012ZvN012ZvO012ZvP012ZvQ012ZvR
  012ZvS012ZvT012ZvU012ZvV012Zw0012Zw1012Zw2012Zw30E2Zw4012Zw5012Zw6012Zw7012Zw8012Zw9012ZwA012ZwB
  012ZwC012ZwD012ZwE012ZwF012ZwG012ZwH012ZwI012ZwJ012ZwK012ZwL012ZwM012ZwN012ZwO012ZwP012ZwQ012ZwR
  012ZwS012ZwT012ZwU012ZwV012Zx0012Zx1012Zx2012Zx3012Zx4012Zx5012Zx6012Zx7012Zx8012Zx9012ZxA012ZxB
  012ZxC012ZxD0E2ZxE012ZxF012ZxG012ZxH012ZxI012ZxJ012ZxK012ZxL012ZxM012ZxN012ZxO012ZxP012ZxQ012ZxR
  012ZxS012ZxT012ZxU012ZxV012Zy0012Zy1012Zy2012Zy3012Zy4012Zy5012Zy6012Zy7012Zy8012Zy9012ZyA012ZyB
  012ZyC012ZyD012ZyE012ZyF012ZyG012ZyH012ZyI012ZyJ0E2ZyK012ZyL012ZyM012ZyN012ZyO012ZyP012ZyQ012ZyR
  012ZyS012ZyT012ZyU012ZyV012Zz0012Zz1012Zz2012Zz3012Zz4012Zz5012Zz6012Zz7012Zz8012Zz9012ZzA012ZzB
  012ZzC012ZzD012ZzE012ZzF012ZzG012ZzH012ZzI012ZzJ012ZzK012ZzL012ZzM012ZzN012ZzO0E2ZzP012ZzQ012ZzR
  012ZzS012ZzT012ZzU012ZzV012Z-0012Z-1012Z-2012Z-3012Z-4012Z-5012Z-6012Z-7012Z-8012Z-9012Z-A012Z-B
  012Z-C012Z-D012Z-E012Z-F012Z-G012Z-H012Z-I012Z-J012Z-K012Z-L012Z-M012Z-N012Z-O012Z-P012Z-Q012Z-R
  012Z-S012Z-T012Z-U0DAZ-V012Z_0012Z_1012Z_2012Z_3012Z_4012Z_5012Z_6012Z_7012Z_8012Z_9012Z_A012Z_B
  012Z_C012Z_D012Z_E012Z_F012Z_G012Z_H012Z_I012Z_J012Z_K012Z_L012Z_M012Z_N012Z_O012Z_P012Z_Q0DAZ_R
  012Z_S012Z_T012Z_U012Z_V012aW0012aW1012aW20DAaW3012aW4012aW5012aW6012aW7012aW8012aW9012aWA0DAaWB
  012aWC012aWD012aWE012aWF012aWG012aWH012aWI012aWJ012aWK012aWL012aWM012aWN012aWO012aWP012aWQ012aWR
  012aWS012aWT012aWU012aWV012aX0012aX1012aX2012aX3012aX4012aX5012aX6012aX7012aX8012aX9012aXA012aXB
  012aXC012aXD012aXE012aXF012aXG012aXH012aXI012aXJ012aXK012aXL012aXM012aXN012aXO012aXP012aXQ012aXR
  012aXS012aXT012aXU012aXV012aY0012aY1012aY2012aY3012aY4012aY5012aY6012aY7012aY8012aY9012aYA012aYB
  012aYC012aYD012aYE012aYF012"

end ScriptCensus.Grammar.TypeScript
