/-!
# The JavaScript states

The states of the automaton, packed.
-/

namespace ScriptCensus.Grammar.JavaScript

/-- The states of the automaton, as packed numbers. -/
def states : String :=
  "XqP0001111222223222432254226422751286129512A712B512C812C512D512E512F912G512HA12I512JB12K512LC12M
  D12N512OE12PF12PG12PH12PI12PJ12PK12PL12PM12PN12PO12PP12PQ12PR12PS12PT12OU12OV12OX012OX112OX212OX
  312OX412OX512OX612OX712OX812OX912OXA12OXB12OXC12QXD33RXE34SXF34TXG33UXH33V034X0034X1034X2034X303
  4X4034X5034X6034X7034X8034X9034XA034XB034XC034XD034XEXI12XEXJ12XFXK12XGXK12XHXK12XIXK12XJXK12XKX
  L12XKXM12XLXN12XLXO12XMXP12XNXQ12XOXR12XPXS12XQXT12XNXU12XRXV12XSY012XRY112XTY212XUY312XVY412Y0Y
  512Y1Y412Y2Y612Y3Y712Y4Y812Y5Y912Y6YA12Y6Y412Y7YB12Y8YC15Y9YD12Y9YE12Y9YF12Y9YG12YAYH12YBYI12YCY
  J12YDYK12YEYL12YFYM12YGYN12YHYO12YIYP12YJYQ12YKYR42YLYS12YMYT54YNYU12YNYV12YLZ012YNZ112YLZ212YLZ
  312YLZ412YLZ512YNZ612YNZ712YNZ812YNZ912YNZA12YNZB12YNZC12YNZD12YOZE12YOZF12YOZG12YOZH12YOZI12YOZ
  J12YPZK42YQZL54YRZM12YRZN12YRZO12YRZP12YRZQ12YRZR12YSZS42YTZL54YUZT12YNZU12YUZV12YNa012YUa112YUa
  212YUa312YUa412YNa512YVa642Z0a712Z0a812Z0a912Z0aA12Z0aB12Z0aC12Z1aD42YJaE12YJaF12YJaG12YJaH12Z2a
  I12Z3aJ12YJaK12Z4aL12YJaM12YJaN12Z4aO12YJaP12YJaQ12YJaR12YJaS12YJaT12YJaU12YJaV12YJb012YJb112YJb
  212YJb312YJb412YJb512YJb612YNb712YJb812YJb912YJbA12YNbB12YNbC12YNbD12YNbE12YJbF12YNbG12YNbH12YNb
  I12YNbJ12YNbK12YNbL12YNbM12YNbN12YNbO12YNbP12YNbQ12YNbR12YNbS12YNbT12YNbU12YNbV12YNc012YNc112YNc
  212YNc312Z5c412YNc512YNc612Z6c712Z4c812Z4c912Z4cA12Z4cB12Z4cC12Z4cD12Z4cE12Z4cF12Z4cG12Z4cH12Z4c
  I12Z4cJ12Z4cK12Z4cL12Z4cM12Z4cN12Z4cO12Z4cP12Z4cQ12Z4cR12Z6cS12Z6cT12Z6cU12Z6cV12Z6d012Z4d112Z6d
  212Z6d312Z6d412Z6d512Z6d612Z6d712Z6d812Z6d912Z6dA12Z6dB12Z6dC12Z6dD12YNdE12Z6dF12Z4dG12Z6dH12Z6d
  I12Z5dJ12Z5dK12Z5dL12Z5dM12Z5dN12Z5dO12Z5dP12Z5dQ12Z5dR12Z5dS12Z5dT12Z5dU12Z5dV12Z5e012Z5e112Z5e
  212Z5e312Z5e412Z5e512Z5e612Z4e712Z4e812Z7e954Z8eA54Z9eB54ZAeB54ZBe954ZCeC54ZDeC54ZEeD54ZFeD54ZGe
  D54ZHeD54ZIeE53ZJeE53ZKeF54ZLeG54ZMeE53ZNeF54ZOeH12ZP015ZQ015ZReI53ZSeF54ZTeI53ZUeJ54ZVeJ54a0eF5
  4a1eK54a2eK54a3012a4eE53a5eE53a6012a7eF54a8eL12a9eE53aAeI53aBeF54aCeM54aD012aEeN12aF015aG015aH01
  2aI015aJ015aK015aL015aM015aN015aO015aP012aQ015aR015aS015aT015aU015aV015b0015b1eM54b2eI53b3eO53b4
  eO53b5012b6012b7012b8012b9012bA012bB012bC012bD012bE012bF012bG012bH012bI012bJ012bK012bLeP53bM012b
  N012bO012bP012bQ012bR012bS012bT012bU012bU012bV012c0012c0012c1012c2012c3012c4012c5012c6012c7012c8
  012c9012cA012cB012cB012cC012cD012cE012cF012cG012cH012cH012cI012cJ012cK012cL012cM012cN012cO012cP0
  12cQ012cR012cS012cT012cU012cVeM54d0eQ54d1053d2053d3053d4053d5053d6053d7053d8eR54d9eR54dA053dBeS5
  3dC053dD053dE053dF053dG053dH054dI054dJ053dK053dL054dM054dN054dO054dP054dQ054dR054dS054dT054dU012
  dV012e0012e1012e1012e1012e1012e2012e3053e4053e5054e6053e7053e8012e9054eA054eB054eC054eD054eE054e
  F054eG054eH054eI053eJ053eK053eL053eM053eN053eO053eP054eQ053eR053eS053eT053eU053eV053f0053f1053f2
  053f3053f4053f5053f6053f7053f8053f9eT33fAeT33fB034fCeU33fDeU33fEeV33fFeV33fGeV33fH034fI034fJ033f
  K033fL033fM033fN033fO033fP033fQ033fR033fS033fT033fU033fV033g0033g1033g2033g3033g2033g4033g5033g6
  033g7033g8033g9033gA033gB033gC033gD033gE033gF063gG033gH033gI033gJ033gK033gL033gM033gN033gO033gP0
  33gQ033gR033gS033gT033gU033gV033h0033h1033h2033h3033h4033h5033h6033h7033h8033h9033hA033hB033hCf0
  34hDf034hE033hFeV33hGeV33hHeV33hIeV33hJeV33hKeV33hLeV33hMeV33hNeV33hOeV33hPeV33hQeV33hReV33hSeV3
  3hTeV33hMeV33hUeV33hVeV33i0eV33i1eV33i2eV33i3eV33i4eV33i5eV33i6033i7033i8033i9f134iAf134iBf234iC
  034iD034iEf234iFf234iG034iH034iI034iJ034iKeV33iL034iM034iN034iO034iP034iQ033iRf234iS034iT034iU03
  4iV034iU034j0034j1f234j2034j3f234j4034j5034j6f234j7034j8034j9034jA034jB034jC064jD034jEf234jF034j
  Gf234jHf234jI034jJf234jKf234jLf234jMf234jNf234jOf234jPf234jQf234jJf234jRf234jSf234jT034jU034jV03
  4k0f234k1034k2f234k3034k4034k5034k6034k7034k8034k9f234kA034kB034kCf234kD034kEf234kF034kG034kH034
  kI034kJ034kK034kL034kMf234kN033kO033kP034kQ034kR034kS034kT034kU034kV034l0034l1034l2034l3034l4034
  l5034l6034l7034l8034l9064lA033lB033lC033lDf234lEf234lFf234lGf234lHf234lIf234lJf234lKf234lLf234lM
  f234lNf234lOf234lPf234lQf234lJf234lRf234lSf234lTf234lUf234lVf234m0f234m1f234m2f234m3034m4f234m5f
  334m6034m7f334m8f334m9033mAeV33mB033mCf234mD034mEf234mFf234mGeV33mHf234mI033mJ033mK033mLf433mMf5
  33mNf533mOf433mPeV33mQf433mRf633mSf234mTf433mUf433mVf234n0f433n1f433n2f433n3f433n4f433n5f433n6f4
  33n7f433n8f433n9f433nAf433nBf433nCf433nDf433nE033nF033nG033nH033nIf433nJf733nKf833nLf433nMf433nN
  f433nOeV33nPeV33nQeV33nReV33nSeV33nTeV33nUeV33nVeV33o0eV33o1eV33o2eV33o3eV33o4eV33o5eV33nUeV33o6
  eV33o7eV33o8eV33o9eV33oAeV33oBeV33oCeV33oDeV33oEf433oFf933oGf433oHf433oIf433oJf433oKf433oLeV33oM
  f433oNf433oOf433oPfA22oQf234oReV33oSf234oTeV33oUeV33oV063p0fB22p1fA22p2fA22p3fA22p4fA22p5033p6eV
  33p7eV33p8eV33p9eV33pAeV33pBeV33pCeV33pDeV33pEeV33pFeV33pGeV33pHeV33pIeV33pJeV33pCeV33pKeV33pLeV
  33pMeV33pNeV33pOeV33pPeV33pQeV33pReV33pS033pTeV33pUeV33pVeV33q0eV33q1eV33q2eV33q3eV33q4eV33q5eV3
  3q6eV33q7fC22q8f233q9eV33qAfD22qBfE12qCfF22qDfG22qEfH22qFfH22qGfI12qHfJ22qIfH22qJfK22qKfH22qLfL1
  2qMeD12qNeD12qOeC12qPeC12qQeD12qReD12qSeD12qTeD12qUeD12qVeD12r0eD12r1eD12r2eD12r3fM15r4eC12r5eD1
  2r6eD12r7eD12r8eD12r9fN22rAfO12rBfO12rCfP12rDfP12rEfO12rFfN22rGfQ15rHfR22rIfO12rJfO12rKfS15rLfP1
  2rMfT15rNfU15rOfV15rPg072rQfQ15rRfO12rSfT15rTg115rUg215rVg315s0g415s1g522s2022s3072s4022s5022s60
  22s7022s7022s7022s7022s7022s7022s8022s9022s9022s9022s9022s9022s9022s9022s9022s9022s9022s9022sA02
  2sA022sA022sA022sA022sA022sB025sC025sDg612sEg612sFg712sGg812sHg912sI022sJ022sKgA12sLgB12sM022sN0
  22sO022sP022sQ022sRfT12sSgC12sT022sUfO12sV022t0g712t1g612t2gD12t3gE12t4gF12t5022t6gG12t7gH12t8gI
  12t9gJ12tAgK12tBgL12tCgM12tDgN12tEgO12tFgP12tGgQ12tH022tI022tJ022tKfQ12tLg712tMfT12tNgR12tOgS12t
  PgT12tQgU12tRgV12tSh012tTh112tUh212tVh312u0h412u1052u2fO12u3g612u4h512u5gG12u6h612u7h712u8h812u9
  h912uAhA12uB052uC052uD052uEfQ12uFfT12uGhB12uHgS12uIhC12uJhD12uKhE12uLhF12uMhG12uN052uOhH32uPhI76
  uQhJ82uRhK76uShL76uThM82uUhN76uVhO76v0hP82v1hQ76v2hR76v3hS82v4hT76v5hJ82v6hJ82v7hU76v8hM82v9hM82
  vAhP82vBhP82vChS82vDhS82vEhJ82vFhV82vGi012vGi112vHhV82vIhM82vJhV82vKhP82vLhV82vMhS82vNhV82vOi212
  vPi312vQi412vQeM12vR012vQi512vSi612vTeP12vUeR12vV012w0082w1i712w2012w3012w4i812w5i915w6iA15w7012
  w8i712w9i812wAiB12wBeQ12wCiB12wDeR12wEeR12wFeR12wGeR12wHiC97wIiD97wJ015wK015wLiE12wM082wNiF15wOi
  D97wP015wQiG12wRiH12wSeS12wTiI12wU082wV082x0iJ15x1iK15x2iG12x3iL15x4i712x5i812x6015x7015x8015x90
  15xA015xB012xC012xDiM97xEiD97xFiN82xGiO12xHg512xIiA15xJiP12xK012xL012xM076xNiQ12xOiR82xPiS12xQiT
  12xR012xSiU12xTiV12xU076xV082y0076y1j012y2076y3076y4j112y5015y6082y7082y8082y9082yA015yB015yC082
  yD082yE076yF076yG076yH076yI076yJ076yK082yL082yM082yN082yO082yP082yQiO12yRj212ySj382yTj412yUiS12y
  Vj582z0j682z1j782z2iO12z3012z4iS12z5012z6j882z7j982z8g512z9jAA8zAjBB8zBjC12zCf232zDjD15zEg512zFj
  E15zGjF15zHjG15zIjH12zJjI12zKg512zLjJ12zMjKA8zNjLB8zOjM12zPjN12zQjO15zRg512zSjP12zT012zUjQ12zVjR
  15-0jS15-1jS15-2jT12-3jU12-4jV12-5jKA8-6jLB8-7jO15zOk012zSk112-8012-9012-AjS15-2k212-B097-Ck312-
  Dk4C2-Ek5D2-Fk6C2-Gk7D2-Hk6C2-Ik7D2-J015-K012-L012-M012-N015-Ok8A8-Pk9B8-QeV32-RkA12-SjKA8-TjLB8
  zOkB12zOkC12zOkD12zOkE12-UkFA8-VkGB8_0jKA8_1jLB8_2kHA8_3kIB8_4jKA8_5jLB8_6jC12_7g512_8g512_9jN12
  _AjC12_BjN12_CkJ12_D015_E015_FkK12_GjD12_H012_IkL12_JkM12_KkN12_JkO12_IkP12_L032_MjI12_NjJ12_OkQ
  12_OjV12_NkR12_PkS12_Q012_RkT12_S015_TkU12_U012_VkO12XW0kP12XW1kP12XW2kO12XW3kO12XW4kP12XW5012XW
  6kV12XW7015XW8012XW9l012XWAl112XWBl212XWC012XWD012XWEjV12XWFkR12XWGkR12XWHl312XWIl412XWIjV12XWJ0
  42XWK015XWL015XWMl512XWNkN12XWO012XWPl612XWQ015XWRl712XWS012XWTl112XWUjV12XWV015XX0l512XX1l612XX
  2015XX3015XX4l812XX5l912XX5kO12XX4kP12XX6032XX7kA12XX8lA12XX8jV12XX7kR12XX9012XXAkO12XXBkP12XXCk
  P12XXDkO12XXEjV12XXFkR12XXGlB12XXGjV12XXH042XXIjV12XXJlC12XXJkO12XXKkO12XXLkO12XXMlD12XXMjV12XXN
  042XXOjV12XXP042XXQlE12XXReN12XXS012XXTkS12XXUl312XXVkS12XY0l312XY1lF12XY1lG12XY1lH12XY1lI12XY2l
  J12XY3015XY4015XY5012XY6jD12XY7012XY6lK12XY8lL12XY9lM12XYA012XYB015XYC015XYD015XYE015XYFlN12XYGl
  O12XYHlP12XYI012XYJ012XYK015XYL012XYGlQ12XYGlR12XYM012XYN012XYO012XYP012XY2lS12XYGlT12XYQlU12XYR
  015XYGlV12XYS012XYTm012XY2m112XYU012XYV082XZ0015XYFm212XYGm312XYHm412XYGm512XYHm612XYHm712XZ1012
  XZ2042XYFm812XZ3m912XYGmA12XYGmB12XZ4mC12XY2mD12XYGmE12XZ5012XYGmF12XYGmG12XYGmH12XYGmI12XYGmJ12
  XYGmK12XY2mL12XZ6015XZ7015XZ8mM12XYGmN12XYGmO12XZ9mP12XZA012XZB012XZCmQ12XZD015XYGmR12XYHmS12XYH
  mT12XYHmU12XYFmV12XZE012XZF012XYGn012XZ4n112XZ4n212XZ3n312XZG012XY2n412XYGn512XY2n612XYGn712XYGn
  812XYGn912XY2nA12XYGnB12XYGnC12XYGnD12XYGnE12XY2nF12XYGnG12XYGnH12XYGnI12XYGnJ12XY2nK12XY2nL12XY
  2nM12XZH012XZI012XZJ015XZK012XYGnN12XZ9nO12XZ9nP12XZL012XZ8nQ12XZM015XZN015XYHnR12XZ4nS12XY2nT12
  XY2nU12XY2nV12XY2o012XY2o112XYGo212XYGo312XYGo412XY2o512XY2o612XY2o712XY2o812XYGo912XYGoA12XYGoB
  12XY2oC12XY2oD12XY2oE12XZO015XZP012XZ9oF12XY2oG12XZQ015XY2oH12XY2oI12XY2oJ12XY2oK12XY2oL12XY2oM1
  2XZR015XZS015XZT015XZ8oN12XZ9oO12XZU012XZV012XZClS12XYFoP12XZ9oQ12XZ9oR12XYHoS12Xa0012Xa1042XZ8o
  T12XZCmD12XZCmL12XYFoU12XYHoV12XZ9p012XYHp112XYHp212XYFp312XZCn412XZCn612XZCnA12XZCnF12XZCnK12XZ
  CnL12XZCnM12XYHp412XYHp512XYFp612XYHp712XZCnT12XZCnU12XZCnV12XZCo012XZCo112XZCo512XZCo612XZCo712
  XZCo812XZCoC12XZCoD12XZCoE12XYHp812XZCoH12XZCoI12XZCoJ12XZCoK12XZCoL12XZCoM12Xa2012Xa3042Xa4012X
  a5042XY1p912XY1pA12XY1pB12XY9pC12XYGpD12XYGpE12XYGpF12XYGpG12XYGpH12XYGpI12XYGpJ12XYGpK12XYGpL12
  XYGpM12XYGpN12XYGpO12XYGpP12XYGpQ12XYGpR12XYGpS12XYGpT12XYGpU12XYGpV12XYGq012XYGq112XYGq212XYGq3
  12XYGq412XYGq512XYGq612XYGq712XYGq812XYGq912XYGqA12XYGqB12XYGqC12XYGqD12Xa60E9Xa7012Xa8012Xa9012
  XaA012XaB012XaC012XaD012XaE012XaF012XaG012XaH012XaI012XaJ012XaK012XaL012XaM012XaN0F2XaO012XaP012
  XaQ012XaR012XaS012XaT012XaU012XaV012Xb0012Xb1012Xb2012Xb3012Xb4012Xb5012Xb6012Xb7012Xb8012Xb9012
  XbA012XbB012XbC012XbD012XbE012XbF012XbG012XbH012XbI012XbJ012XbK012XbL012XbM012XbN012XbO012XbP012
  XbQ012XbR012XbS012XbT012XbU012XbV012Xc0012Xc1012Xc2012Xc3012Xc4012Xc5012Xc6012Xc7012Xc8012Xc9012
  XcA0F2XcB012XcC012XcD012XcE012XcF012XcG012XcH012XcI012XcJ012XcK012XcL012XcM0F2XcN012XcO012XcP0F2
  XcQ012XcR0E9XcS012XcT012XcU012XcV012Xd00E9Xd10E9Xd2012Xd3012Xd4012Xd5012Xd6012Xd7012Xd8012Xd9012
  XdA012XdB012XdC012XdD012XdE012XdF012XdG012"

end ScriptCensus.Grammar.JavaScript
