/-!
# The TypeScript token table

The rows of the token table, packed.
-/

namespace ScriptCensus.Grammar.TypeScript

/-- The rows of the token table, as packed numbers. -/
def tokenRows : String :=
  "aYG3YW9mBa7ZP0ZQXLYWAfQgV7YWBmCh0YRh1YUdDMh2X8e0BaUY2e1a3cGZ6h3Z7cHY3aVXUe2aDdEaEe3aFYB3cIYIb0XD
  e4aBdFaGdGaHdHaIdIaJdJaKdKaLdLaMb1XEZ41dMX4h4FdNTh5Jb2XFYNXGM2b38XS5XT600Y6KZ5NcBX0YAXVbAXH2Oh6b
  1h7YSh8ZAcJXNcKZBcLZ8XMXe37c1aTk1SGMjG44i3c2X8Xe4BeVZSXe5YEXOY3o8PfV3XCXDXDXEXe61JX4c3FHTXQE5ZTX
  e7JXEXF6Ha8YBkNCkOAXe8Do9XGY72XFYTyGaOXGaPoA8D5E600lAKlBNXHX0XlTY5IaQlCaRXe9XH2OXlUXJkPX1XeAa8YE
  XNYFYFZ6YGXLY8XMaSXNYCXMXe37c1aTk1SGMqV44i3c2X8Xe4Bf0ZSXe5YEXOY3o8PfV3XCXDXDXEXe61JX4c3FHTiOE5ZT
  Xe7JXEXF6Ha8YBkNCkOAXe8Do9XGY72XFYTyGaOXGaPoA8D5E600lAKlBNXHX0XlTY5IaQlCaRXe9XH2OXlUXJkPX1XeAa8Y
  EXNYFYFZ6YGXLY8XMaSXNYCXSXeB7XeCYRlDSXeDYUdDMXeEX8e0BYORYWCXIaUY2e1a3cGZ6XeFZ7cHY3aVXUe2aDdEaEe3
  aFYB3cIYIb0XDe4aBdFaGdGaHdHaIdIaJdJaKdKaLdLaMb1XEyH1dMX4XeGFdNTXeHJb2XFbKYBYNXGM2b38XS5XT600Y6Ky
  INyJX0YAXVbAXH2OXeIYMXeJXJXeKXTXeLYSXeMYKXeNY9XeOZAXePa8cJXNcKZBcLZ8XSXeB7XeCYRlDSXeDYUdDMXeEX8e
  0BYORYWDXIaUY2e1a3cGZ6XeFZ7cHY3aVXUe2aDdEaEe3aFYB3cIYIb0XDe4aBdFaGdGaHdHaIdIaJdJaKdKaLdLaMb1XEyH
  1dMX4XeGFdNTXeHJb2XFbKYBYNXGM2b38XS5XT600Y6KyINyJX0YAXVbAXH2OXeIYMXeJXJXeKXTXeLYSXeMYKXeNY9XeOZA
  XePa8cJXNcKZBcLZ8XSXeB7XeCYRlDSXeDYUdDMXeEX8e0BYORYWEXIaUY2e1a3cGZ6XeFZ7cHY3aVXUe2aDdEaEe3aFYB3c
  IYIb0XDe4aBdFaGdGaHdHaIdIaJdJaKdKaLdLaMb1XEyH1dMX4XeGFdNTXeHJb2XFbKYBYNXGM2b38XS5XT600Y6KyINyJX0
  YAXVbAXH2OXeIYMXeJXJXeKXTXeLYSXeMYKXeNY9XeOZAXePa8cJXNcKZBcLZ8XSYWF7YWGYRlDSYWHYUdDMYWIX8e0BYORX
  lVXIaUY2e1a3cGZ6YWJZ7cHY3aVXUe2aDdEaEe3aFYB3cIYIb0XDe4aBdFaGdGaHdHaIdIaJdJaKdKaLdLaMb1XEyH1dMX4Y
  WKFdNTYWLJb2XFbKYBYNXGM2b38XS5XT600Y6KyINyJX0YAXVbAXH2OYWMYMYWNXJYWOXTYWPYSYWQYKYWRY9YWSZAYWTa8c
  JXNcKZBcLZ8XSYWU7YWVYRlDSYX0YUdDMYX1X8e0BYORXlVXIaUY2e1a3cGZ6YX2Z7cHY3aVXUe2aDdEaEe3aFYB3cIYIb0X
  De4aBdFaGdGaHdHaIdIaJdJaKdKaLdLaMb1XEyH1dMX4YX3FdNTYX4Jb2XFbKYBYNXGM2b38XS5XT600Y6KyINyJX0YAXVbA
  XH2OYX5YMYX6XJYX7XTYX8YSYX9YKYXAY9YXBZAYXCa8cJXNcKZBcLZ8XLYXDmDYXE7YXFYRYXGf0YXHYUYXIMYXJX8YXKBY
  XLY2YXMa3YXNZ6YXOZ7YXPY3YXQXUYXRaDYXSaEYXTaFYXU3YXVYIYY0XDYY1aBYY2aGYY3aHYY4aIYY5aJYY6aKYY7aLYY8
  aMYY9XEYYA1YYBX4YYCFYYDTYYEJYYFXFYYGXGYYH2YYI8YYJ5YYK600YYLKYYMNYYNX0YYOXVYYPXHYYQOYYRb1YYSYSYYT
  ZAYYUXNYYVZBYZ0Z8XLgV7h0YRYZ1f0h1YUdDMh2X8e0BYZ2XIaUY2e1a3cGZ6h3Z7cHY3aVXUe2aDdEaEe3aFYB3cIYIb0X
  De4aBdFaGdGaHdHaIdIaJdJaKdKaLdLaMb1XEZ41dMX4h4FdNTh5Jb2XFYNXGM2b38XS5XT600Y6KZ5NcBX0YAXVbAXH2Oh6
  b1h7YSh8ZAcJXNcKZBcLZ8XLgV7h0YRYZ3f0h1YUdDMh2X8e0BYZ4XIaUY2e1a3cGZ6h3Z7cHY3aVXUe2aDdEaEe3aFYB3cI
  YIb0XDe4aBdFaGdGaHdHaIdIaJdJaKdKaLdLaMb1XEZ41dMX4h4FdNTh5Jb2XFYNXGM2b38XS5XT600Y6KZ5NcBX0YAXVbAX
  H2Oh6b1h7YSh8ZAcJXNcKZBcLZ8XLgV7h0YRYZ5f0h1YUdDMh2X8e0BYZ6XIaUY2e1a3cGZ6h3Z7cHY3aVXUe2aDdEaEe3aF
  YB3cIYIb0XDe4aBdFaGdGaHdHaIdIaJdJaKdKaLdLaMb1XEZ41dMX4h4FdNTh5Jb2XFYNXGM2b38XS5XT600Y6KZ5NcBX0YA
  XVbAXH2Oh6b1h7YSh8ZAcJXNcKZBcLZ8XLgV7h0YRYZ7f0h1YUdDMh2X8e0BYZ8XIaUY2e1a3cGZ6h3Z7cHY3aVXUe2aDdEa
  Ee3aFYB3cIYIb0XDe4aBdFaGdGaHdHaIdIaJdJaKdKaLdLaMb1XEZ41dMX4h4FdNTh5Jb2XFYNXGM2b38XS5XT600Y6KZ5Nc
  BX0YAXVbAXH2Oh6b1h7YSh8ZAcJXNcKZBcLZ8XKYZ9fQgV7h0YRh1YUdDMh2X8e0BaUY2e1a3cGZ6h3Z7cHY3aVXUe2aDdEa
  Ee3aFYB3cIYIb0XDe4aBdFaGdGaHdHaIdIaJdJaKdKaLdLaMb1XEZ41dMX4h4FdNTh5Jb2XFYNXGM2b38XS5XT600Y6KZ5Nc
  BX0YAXVbAXH2Oh6b1h7YSh8ZAcJXNcKZBcLZ8XKYZAfQgV7h0YRh1YUdDMh2X8e0BaUY2e1a3cGZ6h3Z7cHY3aVXUe2aDdEa
  Ee3aFYB3cIYIb0XDe4aBdFaGdGaHdHaIdIaJdJaKdKaLdLaMb1XEZ41dMX4h4FdNTh5Jb2XFYNXGM2b38XS5XT600Y6KZ5Nc
  BX0YAXVbAXH2Oh6b1h7YSh8ZAcJXNcKZBcLZ8XKgV7h0YRh1YUdDMh2X8e0BYZBXIaUY2e1a3cGZ6h3Z7cHY3aVXUe2aDdEa
  Ee3aFYB3cIYIb0XDe4aBdFaGdGaHdHaIdIaJdJaKdKaLdLaMb1XEZ41dMX4h4FdNTh5Jb2XFYNXGM2b38XS5XT600Y6KZ5Nc
  BX0YAXVbAXH2Oh6b1h7YSh8ZAcJXNcKZBcLZ8XKgV7h0YRh1YUdDMh2X8e0BYZCXIaUY2e1a3cGZ6h3Z7cHY3aVXUe2aDdEa
  Ee3aFYB3cIYIb0XDe4aBdFaGdGaHdHaIdIaJdJaKdKaLdLaMb1XEZ41dMX4h4FdNTh5Jb2XFYNXGM2b38XS5XT600Y6KZ5Nc
  BX0YAXVbAXH2Oh6b1h7YSh8ZAcJXNcKZBcLZ8XKgV7h0YRh1YUdDMh2X8e0BYZDXIaUY2e1a3cGZ6h3Z7cHY3aVXUe2aDdEa
  Ee3aFYB3cIYIb0XDe4aBdFaGdGaHdHaIdIaJdJaKdKaLdLaMb1XEZ41dMX4h4FdNTh5Jb2XFYNXGM2b38XS5XT600Y6KZ5Nc
  BX0YAXVbAXH2Oh6b1h7YSh8ZAcJXNcKZBcLZ8XKgV7h0YRh1YUdDMh2X8e0BYZEXIaUY2e1a3cGZ6h3Z7cHY3aVXUe2aDdEa
  Ee3aFYB3cIYIb0XDe4aBdFaGdGaHdHaIdIaJdJaKdKaLdLaMb1XEZ41dMX4h4FdNTh5Jb2XFYNXGM2b38XS5XT600Y6KZ5Nc
  BX0YAXVbAXH2Oh6b1h7YSh8ZAcJXNcKZBcLZ8XKgV7h0YRh1YUdDMh2X8e0BYZFXIaUY2e1a3cGZ6h3Z7cHY3aVXUe2aDdEa
  Ee3aFYB3cIYIb0XDe4aBdFaGdGaHdHaIdIaJdJaKdKaLdLaMb1XEZ41dMX4h4FdNTh5Jb2XFYNXGM2b38XS5XT600Y6KZ5Nc
  BX0YAXVbAXH2Oh6b1h7YSh8ZAcJXNcKZBcLZ8XKgV7h0YRh1YUdDMh2X8e0BYZGXIaUY2e1a3cGZ6h3Z7cHY3aVXUe2aDdEa
  Ee3aFYB3cIYIb0XDe4aBdFaGdGaHdHaIdIaJdJaKdKaLdLaMb1XEZ41dMX4h4FdNTh5Jb2XFYNXGM2b38XS5XT600Y6KZ5Nc
  BX0YAXVbAXH2Oh6b1h7YSh8ZAcJXNcKZBcLZ8XKgV7h0YRh1YUdDMh2X8e0BYZHXIaUY2e1a3cGZ6h3Z7cHY3aVXUe2aDdEa
  Ee3aFYB3cIYIb0XDe4aBdFaGdGaHdHaIdIaJdJaKdKaLdLaMb1XEZ41dMX4h4FdNTh5Jb2XFYNXGM2b38XS5XT600Y6KZ5Nc
  BX0YAXVbAXH2Oh6b1h7YSh8ZAcJXNcKZBcLZ8XKgV7h0YRh1YUdDMh2X8e0BYZIXIaUY2e1a3cGZ6h3Z7cHY3aVXUe2aDdEa
  Ee3aFYB3cIYIb0XDe4aBdFaGdGaHdHaIdIaJdJaKdKaLdLaMb1XEZ41dMX4h4FdNTh5Jb2XFYNXGM2b38XS5XT600Y6KZ5Nc
  BX0YAXVbAXH2Oh6b1h7YSh8ZAcJXNcKZBcLZ8XKgV7h0YRh1YUdDMh2X8e0BYZJXIaUY2e1a3cGZ6h3Z7cHY3aVXUe2aDdEa
  Ee3aFYB3cIYIb0XDe4aBdFaGdGaHdHaIdIaJdJaKdKaLdLaMb1XEZ41dMX4h4FdNTh5Jb2XFYNXGM2b38XS5XT600Y6KZ5Nc
  BX0YAXVbAXH2Oh6b1h7YSh8ZAcJXNcKZBcLZ8XKgV7h0YRh1YUdDMh2X8e0BYZKXIaUY2e1a3cGZ6h3Z7cHY3aVXUe2aDdEa
  Ee3aFYB3cIYIb0XDe4aBdFaGdGaHdHaIdIaJdJaKdKaLdLaMb1XEZ41dMX4h4FdNTh5Jb2XFYNXGM2b38XS5XT600Y6KZ5Nc
  BX0YAXVbAXH2Oh6b1h7YSh8ZAcJXNcKZBcLZ8XKgV7h0YRh1YUdDMh2X8e0BYZLXIaUY2e1a3cGZ6h3Z7cHY3aVXUe2aDdEa
  Ee3aFYB3cIYIb0XDe4aBdFaGdGaHdHaIdIaJdJaKdKaLdLaMb1XEZ41dMX4h4FdNTh5Jb2XFYNXGM2b38XS5XT600Y6KZ5Nc
  BX0YAXVbAXH2Oh6b1h7YSh8ZAcJXNcKZBcLZ8XKgV7h0YRh1YUdDMh2X8e0BYZMXIaUY2e1a3cGZ6h3Z7cHY3aVXUe2aDdEa
  Ee3aFYB3cIYIb0XDe4aBdFaGdGaHdHaIdIaJdJaKdKaLdLaMb1XEZ41dMX4h4FdNTh5Jb2XFYNXGM2b38XS5XT600Y6KZ5Nc
  BX0YAXVbAXH2Oh6b1h7YSh8ZAcJXNcKZBcLZ8XKgV7h0YRh1YUdDMh2X8e0BYZNXIaUY2e1a3cGZ6h3Z7cHY3aVXUe2aDdEa
  Ee3aFYB3cIYIb0XDe4aBdFaGdGaHdHaIdIaJdJaKdKaLdLaMb1XEZ41dMX4h4FdNTh5Jb2XFYNXGM2b38XS5XT600Y6KZ5Nc
  BX0YAXVbAXH2Oh6b1h7YSh8ZAcJXNcKZBcLZ8XKgV7h0YRh1YUdDMh2X8e0BYZOXIaUY2e1a3cGZ6h3Z7cHY3aVXUe2aDdEa
  Ee3aFYB3cIYIb0XDe4aBdFaGdGaHdHaIdIaJdJaKdKaLdLaMb1XEZ41dMX4h4FdNTh5Jb2XFYNXGM2b38XS5XT600Y6KZ5Nc
  BX0YAXVbAXH2Oh6b1h7YSh8ZAcJXNcKZBcLZ8XJYZP7YZQYRYZRYUdDMYZSX8YZTBaUY2YZUa3cGZ6YZVZ7cHY3aVXUYa0aD
  dEaEYa1aFYB3cIYIb0XDYa2aBdFaGdGaHdHaIdIaJdJaKdKaLdLaMb1XEZ41Xm0X4Ya3FXm1TYa4Jb2XFYNXGM2b38XS5XT6
  00Y6KZ5NcBX0YAXVbAXH2OYa5b1Ya6YSYa7ZAcJXNcKZBcLZ8XJgV7h0YRh1YUdDMh2X8e0BaUY2e1a3cGZ6h3Z7cHY3aVXU
  e2aDdEaEe3aFYB3cIYIb0XDe4aBdFaGdGaHdHaIdIaJdJaKdKaLdLaMb1XEZ41dMX4h4FdNTh5Jb2XFYNXGM2b38XS5XT600
  Y6KZ5NcBX0YAXVbAXH2Oh6b1h7YSh8ZAcJXNcKZBcLZ8XHoB7hRaTY1SGMhSX8oCBr0Rn9YEXOY3a9XUfV3aAXDaBXEnA1Ya
  8XRJX4hTFHToDJaCXFoEYBcVCd0AnBDUXGM2m9aOaDaPaE8D5E600lAKlBNaFX0nCY5IaQlCaRoFXH2OoGXJd1X1oHa8d2XN
  d3YFcMYGXLY8XMaSXNYCXHoB7hRaTY1SGMhSX8oCBr0Rn9YEXOY3a9XUfV3aAXDaBXEnA1Ya9XRJX4hTFHToDJaCXFoEYBcV
  Cd0AnBDUXGM2m9aOaDaPaE8D5E600lAKlBNaFX0nCY5IaQlCaRoFXH2OoGXJd1X1oHa8d2XNd3YFcMYGXLY8XMaSXNYCXHoB
  7hRaTY1SGMhSX8oCBr0Rn9YEXOY3a9XUfV3aAXDaBXEnA1YaAXRJX4hTFHToDJaCXFoEYBcVCd0AnBDUXGM2m9aOaDaPaE8D
  5E600lAKlBNaFX0nCY5IaQlCaRoFXH2OoGXJd1X1oHa8d2XNd3YFcMYGXLY8XMaSXNYCXHoB7hRaTY1SGMhSX8oCBr0Rn9YE
  XOY3a9XUfV3aAXDaBXEnA1YaBXRJX4hTFHToDJaCXFoEYBcVCd0AnBDUXGM2m9aOaDaPaE8D5E600lAKlBNaFX0nCY5IaQlC
  aRoFXH2OoGXJd1X1oHa8d2XNd3YFcMYGXLY8XMaSXNYCXHoB7hRaTY1SGMhSX8oCBr0Rn9YEXOY3a9XUfV3aAXDaBXEnA1Ya
  CXRJX4hTFHToDJaCXFoEYBcVCd0AnBDUXGM2m9aOaDaPaE8D5E600lAKlBNaFX0nCY5IaQlCaRoFXH2OoGXJd1X1oHa8d2XN
  d3YFcMYGXLY8XMaSXNYCXHoB7hRaTY1SGMhSX8oCBr0Rn9YEXOY3a9XUfV3aAXDaBXEnA1YaDXRJX4hTFHToDJaCXFoEYBcV
  Cd0AnBDUXGM2m9aOaDaPaE8D5E600lAKlBNaFX0nCY5IaQlCaRoFXH2OoGXJd1X1oHa8d2XNd3YFcMYGXLY8XMaSXNYCXHoB
  7hRaTY1SGMhSX8oCBr0Rn9YEXOY3a9XUfV3aAXDaBXEnA1YaEXRJX4hTFHToDJaCXFoEYBcVCd0AnBDUXGM2m9aOaDaPaE8D
  5E600lAKlBNaFX0nCY5IaQlCaRoFXH2OoGXJd1X1oHa8d2XNd3YFcMYGXLY8XMaSXNYCXHoB7hRaTY1SGMhSX8oCBr0Rn9YE
  XOY3a9XUfV3aAXDaBXEnA1YaFXRJX4hTFHToDJaCXFoEYBcVCd0AnBDUXGM2m9aOaDaPaE8D5E600lAKlBNaFX0nCY5IaQlC
  aRoFXH2OoGXJd1X1oHa8d2XNd3YFcMYGXLY8XMaSXNYCXHoB7hRaTY1SGMhSX8oCBr0Rn9YEXOY3a9XUfV3aAXDaBXEnA1Ya
  GXRJX4hTFHToDJaCXFoEYBcVCd0AnBDUXGM2m9aOaDaPaE8D5E600lAKlBNaFX0nCY5IaQlCaRoFXH2OoGXJd1X1oHa8d2XN
  d3YFcMYGXLY8XMaSXNYCXHoB7hRaTY1SGMhSX8oCBYaHRn9YEXOY3a9XUfV3aAXDaBXEnA1YaIXRJX4hTFHToDJaCXFoEYBc
  VCd0AnBDUXGM2m9aOaDaPaE8D5E600lAKlBNaFX0nCY5IaQlCaRoFXH2OoGXJd1X1oHa8d2XNd3YFcMYGXLY8XMaSXNYCX5w
  F7wGY14ZNcNMaI4wHX8e5B5dPh9XIXGZ3YB3XCXDZMX7XDXEZ41nD9cOX4wIFcPTXUEwJJXEXF6HYNXGY72XFYTXK8XS5XT6
  00Y6KZ5NXHX0YAXVrTXH2OZNX1X5wF7wGY14ZNcNMaI4wHX8e5B5dPhAXIXGZ3YB3XCXDZMX7XDXEZ41nD9cOX4wIFcPTXUE
  wJJXEXF6HYNXGY72XFYTXK8XS5XT600Y6KZ5NXHX0YAXVrTXH2OZNX1X5wF7wGY14ZNcNMaI4wHX8e5B5dPhBXIXGZ3YB3XC
  XDZMX7XDXEZ41nD9cOX4wIFcPTXUEwJJXEXF6HYNXGY72XFYTXK8XS5XT600Y6KZ5NXHX0YAXVrTXH2OZNX1X6d47c1Y14cK
  GMqV4c2X8cQBf0ZSXGdEo8dFrU3XCXDXDXErV1JX4c3FHTiOE5ZTd5JXEXF6Ha8YBo9XGs02XFYToA8D5E600s1KX1NXHX0X
  XCY5IZOd6XH2OgHX1X6d47c1Y14cKGMjG4c2X8cQBeVZSXGdEo8dFrU3XCXDXDXErV1JX4c3FHTXQE5ZTd5JXEXF6Ha8YBo9
  XGs02XFYToA8D5E600s1KX1NXHX0Xm2Y5IZOd6XH2OgHX1X6d47c1Y14cKGMjG4c2X8cQBeVZSXGdEo8dFrU3XCXDXDXErV1
  JX4c3FHTXQE5ZTd5JXEXF6Ha8YBo9XGs02XFYToA8D5E600s1KX1NXHX0YaJY5IZOd6XH2OgHX1XIYaK7Xm3i4Y1SGMXm4X8
  YaLBYaMYEXOY3e6XUfV3XXDYAe7XDe8XEYaN1JX4Xm5FHTYaOJe9XFa8YBbBCbCAYaPDUXGM2Xm6aOeAaPeB8D5E600Xm7KX
  m8NeCX0YaQY5IaQXm9aRYaRXH2OYaSXJbDX1XmAYKXmBY9YaTa8YEXNYFYFZ6YGXLY8XMaSXNYCX6d47c1Y14cKGMjG4c2X8
  cQBeVZSXGdEo8dFrU3XCXDXDXErV1JX4c3FHTXQE5ZTd5JXEXF6Ha8YBo9XGs02XFYToA8D5E600s1KX1NXHX0YaUY5IZOd6
  XH2OgHX1X6d47c1Y14cKGMjG4c2X8cQBeVZSXGdEo8dFrU3XCXDXDXErV1JX4c3FHTXQE5ZTd5JXEXF6Ha8YBo9XGs02XFYT
  oA8D5E600s1KX1NXHX0YaVY5IZOd6XH2OgHX1X6d47c1Y14cKGMjG4c2X8cQBeVZSXGdEo8dFrU3XCXDXDXErV1JX4c3FHTX
  QE5ZTd5JXEXF6Ha8YBo9XGs02XFYToA8D5E600s1KX1NXHX0Yb0Y5IZOd6XH2OgHX1X6d47c1Y14cKGMjG4c2X8cQBeVZSXG
  dEo8dFrU3XCXDXDXErV1JX4c3FHTXQE5ZTd5JXEXF6Ha8YBo9XGs02XFYToA8D5E600s1KX1NXHX0Yb1Y5IZOd6XH2OgHX1X
  6d47c1Y14cKGMjG4c2X8cQBeVZSXGdEo8dFrU3XCXDXDXErV1JX4c3FHTXQE5ZTd5JXEXF6Ha8YBo9XGs02XFYToA8D5E600
  s1KX1NXHX0XXCY5IZOd6XH2OgHX1XIXe37c1i4Y1SGMc2X8Xe4BXe5YEXOY3XFXUfV3XXDYAXCXDXDXEXe61JX4c3FHTXe7J
  XEXFa8YBbBCbCAXe8DUXGM2yGaOXGaPXK8D5E600lAKlBNXHX0Yb2Y5IaQlCaRXe9XH2OYb3XJbDX1mIYKlEY9XeAa8YEXNY
  FYFZ6YGXLY8XMaSXNYCX4c47b4Y14ZNGMjG4b5X8Y8BeVb9XGZ3X03XCXDXDXEY91aJ9JX4b6FHTXQE5ZTbEJXEXF6HUXGY7
  2XFYTXK8D5E600VKX1NXHX0IXVYTXH2OgHX1X4c47b4Y14ZNGMYC4b5X8Y8Bk2b9XGZ3X03XCXDXDXEY91aJ9JX4b6FHTXQE
  5ZTbEJXEXF6HUXGY72XFYTXK8D5E600VKX1NXHX0IXVYTXH2OXXEX1X2t77t8Y14ZNGMiP4t9X8XVB5i5XGZ3X03XCXDXDXE
  Y01aJ9JX4tAFHTbREtBJXEXF6HUXGY72XFYTXK8D5E600VKX1NXHX0IXVYTXH2OX2c47b4Y14ZNGMYC4b5X8Y8B5i5XGZ3X0
  3XCXDXDXEY91aJ9JX4b6FHTbREbEJXEXF6HUXGY72XFYTXK8D5E600VKX1NXHX0IXVYTXH2OX3wF7wGY14ZNcNMhC4wHX8e5
  B5dPXGZ3YB3XCXDoIX7XDXEZ41nD9cOX4wIFcPTXUEwJJXEXF6HYNXGY72XFYTXK8XS5XT600Y6KZ5NXHX0YAXVrTXH2OX2w
  F7wGY14ZNcNMhC4wHX8e5B5i6XGZ3YB3XCXDXDXEZ41nD9cOX4wIFcPTXUEwJJXEXF6HYNXGY72XFYTXK8XS5XT600Y6KZ5N
  XHX0YAXVrTXH2OX4XmC7XmDY14ZNGMqV4XmEX8XVBf0ZSXGZ3X03XCXDXDXEY01aJ9JX4XmFFHTiOE5ZTXmGJXEXF6HUXGY7
  2XFYTXK8D5E600VKX1NXHX0IXVYTXH2OgHX1X4c47b4Y14ZNGMjG4b5X8Y8BeVZSXGZ3X03XCXDXDXEY91aJ9JX4b6FHTXQE
  5ZTbEJXEXF6HUXGY72XFYTXK8D5E600VKX1NXHX0IXVYTXH2OgHX1X2c47b4Y14ZNGMYC4b5X8Y8B5i6XGZ3X03XCXDXDXEY
  91nD9JX4b6FHTXUEbEJXEXF6HUXGY72XFYTXK8D5E600VKX1NXHX0IXVYTXH2OX3wF7wGY14ZNcNMhC4wHX8e5B5dPXGZ3YB
  3XCXDoJX7XDXEZ41nD9cOX4wIFcPTXUEwJJXEXF6HYNXGY72XFYTXK8XS5XT600Y6KZ5NXHX0YAXVrTXH2OX2Yb47Yb5Y14f
  RcNMwK4Yb6X8e5B5dPXGZ3YB3XCXDXDXEZ41nD9cOX4Yb7FcPToKEYb8JXEXF6Hs2XGY72XFYTXK8XS5XT600Y6KZ5NXHX0Y
  AXVrTXH2OX2c47b4Y14fRGMYC4b5X8Y8B5dPXGZ3X03XCXDXDXEY91nD9JX4b6FHToKEbEJXEXF6HUXGY72XFYTXK8D5E600
  VKX1NXHX0IXVYTXH2OX3t77t8Y14ZNGMiP4t9X8XVBwLbHXGZ3X03XCXDXDXEY01aJ9JX4tAFHTbRE5ZTtBJXEXF6HUXGY72
  XFYTXK8D5E600VKX1NXHX0IXVYTXH2OX4t77t8Y14i7GMiP4t9X8XVB5mEXGZ3X03XCXDoLa0s3b5XDXEY01aJ9JX4tAFHTb
  REtBJXEXF6HUXGY72XFYTXK8D5E600VKX1NXHX0IXVYTXH2OX5yK7yLY14ZNGMs44yMX8XVBeVRXGZ3X03XCXDs5X7XDXEY0
  1f0XRaJ9JX4yNFHTeLE5ZTyOJXEXF6HUXGY72XFYTXK8D5E600VKX1NXHX0IXVYTXH2OX2XmC7XmDY14ZNGMwM4XmEX8XVB5
  i8XGZ3X03XCXDXDXEY01aJ9JX4XmFFHTiOEXmGJXEXF6HUXGY72XFYTXK8D5E600VKX1NXHX0IXVYTXH2OX4t77t8Y14ZNGM
  iP4t9X8XVBwLb2XGZ3X03XCXDk2X7XDXEY01aJ9JX4tAFHTbRE5ZTtBJXEXF6HUXGY72XFYTXK8D5E600VKX1NXHX0IXVYTX
  H2OX2c47b4Y14ZNGMYC4b5X8Y8B5i8XGZ3X03XCXDXDXEY91aJ9JX4b6FHTiOEbEJXEXF6HUXGY72XFYTXK8D5E600VKX1NX
  HX0IXVYTXH2OX3t77t8Y14ZNGMoM4t9X8XVBf0bHXGZ3X03XCXDXDXEY01aJ9JX4tAFHTbRE5ZTtBJXEXF6HUXGY72XFYTXK
  8D5E600VKX1NXHX0IXVYTXH2OX3yK7yLY14ZNGMlF4yMX8XVBXGZ3X03XCXDs5X7XDXEY015fSaJ9JX4yNFHTeLEyOJXEXF6
  HUXGY72XFYTXK8D5E600VKX1NXHX0IXVYTXH2OX3yK7yLY14ZNGMlF4yMX8XVBXGZ3X03XCXDXXFX7XDXEY015fSaJ9JX4yN
  FHTeLEyOJXEXF6HUXGY72XFYTXK8D5E600VKX1NXHX0IXVYTXH2OX4yK7yLY14ZNGMs44yMX8XVBeVRXGZ3X03XCXDXDXEY0
  1f0XRaJ9JX4yNFHTeLE5ZTyOJXEXF6HUXGY72XFYTXK8D5E600VKX1NXHX0IXVYTXH2OX3t77t8Y14ZNGMoM4t9X8XVBf0YN
  XGZ3X03XCXDXDXEY01aJ9JX4tAFHTbRE5ZTtBJXEXF6HUXGY72XFYTXK8D5E600VKX1NXHX0IXVYTXH2OX2Yb97YbAY14ZNc
  NMjH4YbBX8e5BXGZ3YB35i9XCXDXDXEZ41nD9cOX4YbCFcPThUEYbDJXEXF6HYNXGY72XFYTXK8XS5XT600Y6KZ5NXHX0YAX
  VrTXH2OX2c47b4Y14ZNGMYC4b5X8Y8BXGZ3X035i9XCXDXDXEY91nD9JX4b6FHThUEbEJXEXF6HUXGY72XFYTXK8D5E600VK
  X1NXHX0IXVYTXH2OX3t77t8Y14ZNGMoM4t9X8XVBf0b2XGZ3X03XCXDXDXEY01aJ9JX4tAFHTbRE5ZTtBJXEXF6HUXGY72XF
  YTXK8D5E600VKX1NXHX0IXVYTXH2OX2YbE7YbFY14iAGMwN4YbGX8XVB5iBXGZ3X03XCXDXDXEY01aJ9JX4YbHFHToNEYbIJ
  XEXF6Hs6XGY72XFYTXK8D5E600VKX1NXHX0IXVYTXH2OX2c47b4Y14iAGMYC4b5X8Y8B5iBXGZ3X03XCXDXDXEY91aJ9JX4b
  6FHToNEbEJXEXF6HUXGY72XFYTXK8D5E600VKX1NXHX0IXVYTXH2OX3c47b4Y14ZNGMYC4b5X8Y8BXGZ3X03XCXDk2X7XDXE
  Y91aJ9JX4b6FHTXQE5ZTbEJXEXF6HUXGY72XFYTXK8D5E600VKX1NXHX0IXVYTXH2OX4c47b4Y14i7GMYC4b5X8Y8BXGZ3X0
  3XCXDoLa0s3b5XDXEY91aJ9JX4b6FHTXQE5ZTbEJXEXF6HUXGY72XFYTXK8D5E600VKX1NXHX0IXVYTXH2OX2YbJ7YbKY14Z
  NGMwO4YbLX8XVBXGZ3X03XCXD5iCXDXEY01aJ9JX4YbMFHToOEYbNJXEXF6HUXGY72XFYTXK8D5E600VKX1NXHX0IXVYTXH2
  OX2yK7yLY14ZNGMlF4yMX8XVBXGZ3X03XCXDXDXEY015fSaJ9JX4yNFHTeLEyOJXEXF6HUXGY72XFYTXK8D5E600VKX1NXHX
  0IXVYTXH2OX2YbO7YbPY14fRGMwP4YbQX8Y8BXGZ3X03XCXDXDXEY91aJ9JX4YbRFHToPE5ZTYbSJXEXF6Hs7XGY72XFYTXK
  8D5E600VKX1NXHX0IXVYTXH2OX2c47b4Y14ZNGMYC4b5X8Y8BXGZ3X03XCXD5iCXDXEY91aJ9JX4b6FHToOEbEJXEXF6HUXG
  Y72XFYTXK8D5E600VKX1NXHX0IXVYTXH2OX2c47b4Y14ZNGMYC4b5X8Y8BXGZ3X03XCXDXDXEY915fSaJ9JX4b6FHTeLEbEJ
  XEXF6HUXGY72XFYTXK8D5E600VKX1NXHX0IXVYTXH2OX2c47b4Y14fRGMYC4b5X8Y8BXGZ3X03XCXDXDXEY91aJ9JX4b6FHT
  oPE5ZTbEJXEXF6HUXGY72XFYTXK8D5E600VKX1NXHX0IXVYTXH2OX2c47b4Y14ZNGMXXG4b5X8Y8BXGZ3X03XCXDXDXEY91a
  J9JX4b6FHTXQE5ZTbEJXEXF6HUXGY72XFYTXK8D5E600VKX1NXHX0IXVYTXH2OXFYbT7hRaTXXHSGMhSX8YbUBYbVYEyPY3a
  9XUYc03aAXDaBXEYc11JX4hTFHTYc2JaCXFa8YBXXICXXJAYc3DUXGM2Yc4aOaDaPaE8XS5XT600Yc5KYc6NaFX0Yc7Y5IaQ
  Yc8aRYc9XH2OYcAXJXXKX1YcBa8XXLXNXXMYFyQYGyRY8ySaSs8YCX2c47b4Y14ZNGMXXN4b5X8Y8BXGZ3X03XCXDXDXEY91
  aJ9JX4b6FHTXQE5ZTbEJXEXF6HUXGY72XFYTXK8D5E600VKX1NXHX0IXVYTXH2OX2c47b4Y14ZNGMXXO4b5X8Y8BXGZ3X03X
  CXDXDXEY91aJ9JX4b6FHTXQE5ZTbEJXEXF6HUXGY72XFYTXK8D5E600VKX1NXHX0IXVYTXH2OX2c47b4Y14ZNGMYC4b5X8Y8
  BXGZ3X03XCXDXDXEY91aJ9JX4b6FHTXQE5ZTbEJXEXF6HUXGY72XFYTXK8D5E600VKX1NXHX0IXVYTXH2OX2c47b4Y14ZNGM
  XXP4b5X8Y8BXGZ3X03XCXDXDXEY91aJ9JX4b6FHTXQE5ZTbEJXEXF6HUXGY72XFYTXK8D5E600VKX1NXHX0IXVYTXH2OX2c4
  7b4Y14ZNGMXXQ4b5X8Y8BXGZ3X03XCXDXDXEY91aJ9JX4b6FHTXQE5ZTbEJXEXF6HUXGY72XFYTXK8D5E600VKX1NXHX0IXV
  YTXH2OX2c47b4Y14ZNGMXXR4b5X8Y8BXGZ3X03XCXDXDXEY91aJ9JX4b6FHTXQE5ZTbEJXEXF6HUXGY72XFYTXK8D5E600VK
  X1NXHX0IXVYTXH2OX2c47b4Y14ZNGMXXS4b5X8Y8BXGZ3X03XCXDXDXEY91aJ9JX4b6FHTXQE5ZTbEJXEXF6HUXGY72XFYTX
  K8D5E600VKX1NXHX0IXVYTXH2OX2c47b4Y14ZNGMXXT4b5X8Y8BXGZ3X03XCXDXDXEY91aJ9JX4b6FHTXQE5ZTbEJXEXF6HU
  XGY72XFYTXK8D5E600VKX1NXHX0IXVYTXH2OX2c47b4Y14ZNGMXXU4b5X8Y8BXGZ3X03XCXDXDXEY91aJ9JX4b6FHTXQE5ZT
  bEJXEXF6HUXGY72XFYTXK8D5E600VKX1NXHX0IXVYTXH2OX2c47b4Y14ZNGMXXV4b5X8Y8BXGZ3X03XCXDXDXEY91aJ9JX4b
  6FHTXQE5ZTbEJXEXF6HUXGY72XFYTXK8D5E600VKX1NXHX0IXVYTXH2OXEYcC7jIaTY1SGMjJX8YcDBYcEYEXOY3a9XUfV3a
  AXDaBXEYcF1JX4jKFHTXmHJaCXFbBCbCAYcGDUXGM2m9aOaDaPaE8D5E600Xm7KXm8NaFX0YcHY5IaQXm9aRYcIXH2OXmIXJ
  bDX1YcJa8YEXNYFYFZ6YGXLY8XMaSXNYCXEYcK7s9aTY1ScNMsAX8XmJBYcLYEXOY3aVXUXeQ3b0XDb1XEXmK1cOX4sBFcPT
  YcMJb2XFbBCbCAYcNDYNXGM2YcOaOaUaPb38XS5XT600XmLKXmMNcBX0XmNY5YAaQXmOaRYcPXH2OYcQXJbDX1YcRa8YEXNY
  FYFZ6YGXLY8XMaSXNYCXEYcS7YcTaTY1SGMYcUX8YcVBYd0YEXOY3XFXUfV3XCXDXDXEYd11JX4Yd2FHTYd3JXEXFbBCbCAY
  d4DUXGM2yGaOXGaPXK8D5E600Yd5KYd6NXHX0Yd7Y5IaQYd8aRYd9XH2OYdAXJbDX1YdBa8YEXNYFYFZ6YGXLY8XMaSXNYCX
  EYdC7XmPaTY1SGMXmQX8YdDBn9YEXOY3a9XUfV3aAXDaBXEnA1JX4XmRFHTYdEJaCXFbBCbCAnBDUXGM2m9aOaDaPaE8D5E6
  00lAKlBNaFX0nCY5IaQlCaRYdFXH2OYdGXJbDX1YdHa8YEXNYFYFZ6YGXLY8XMaSXNYCXEYdI7f1aTY1SGMf2X8XeRBYdJYE
  XOY3e6XUfV3e7XDe8XEXeS1JX4f3FHTYdKJe9XFbBCbCAYdLDUXGM2Xm6aOeAaPeB8D5E600XeTKXeUNeCX0XeVY5IaQXf0a
  RYdMXH2OYdNXJbDX1YdOa8YEXNYFYFZ6YGXLY8XMaSXNYCXEYdP7oQaTY1ScNMr1X8YdQBYdRYEXOY3oRXUXeQ3oSXDoTXEY
  dS1cOX4tCFcPTYdTJoUXFbBCbCAYdUDYNXGM2YdVaOoVaPp08XS5XT600Ye0KYe1Np1X0Ye2Y5YAaQYe3aRYe4XH2OYe5XJb
  DX1Ye6a8YEXNYFYFZ6YGXLY8XMaSXNYCXEYe77jIaTY1SGMjJX8XeRBYe8YEXOY3a9XUfV3aAXDaBXEXeS1JX4jKFHTXmHJa
  CXFbBCbCAYe9DUXGM2m9aOaDaPaE8D5E600XeTKXeUNaFX0XeVY5IaQXf0aRYeAXH2OXmIXJbDX1YeBa8YEXNYFYFZ6YGXLY
  8XMaSXNYCXEYeC7b4aTY1SGMb5X8XmSBYeDYEXOY3XFXUfV3XCXDXDXEXY01JX4b6FHTYeEJXEXFbBCbCAYeFDUXGM2yGaOX
  GaPXK8D5E600XY1KXY2NXHX0XY3Y5IaQXY4aRYeGXH2OYeHXJbDX1YeIa8YEXNYFYFZ6YGXLY8XMaSXNYCXEYeJ7tDaTY1SG
  MtEX8XmTBYeKYEXOY3tFXUfV3tGXDtHXEXY01JX4tIFHTYeLJtJXFbBCbCAYeMDUXGM2YeNaOtKaPtL8D5E600XY1KXY2NtM
  X0XY3Y5IaQXY4aRYeOXH2OYePXJbDX1YeQa8YEXNYFYFZ6YGXLY8XMaSXNYCXEYeR7tNaTY1SGMtOX8XmTBYeSYEXOY3nEXU
  fV3nFXDnGXEXY01JX4tPFHTYeTJnHXFbBCbCAYeUDUXGM2YeVaOnIaPnJ8D5E600XY1KXY2NnKX0XY3Y5IaQXY4aRYf0XH2O
  Yf1XJbDX1Yf2a8YEXNYFYFZ6YGXLY8XMaSXNYCXEYf37tQaTY1ScNMtRX8XmJBYf4YEXOY3tSXUXeQ3tTXDtUXEXmK1cOX4t
  VFcPTYf5Ju0XFbBCbCAYf6Ds2XGM2Yf7aOu1aPu28XS5XT600XmLKXmMNu3X0XmNY5YAaQXmOaRYf8XH2OYf9XJbDX1YfAa8
  YEXNYFYFZ6YGXLY8XMaSXNYCXEYfB7u4aTY1SGMu5X8XeRBYfCYEXOY3u6XUfV3u7XDu8XEXeS1JX4u9FHTYfDJuAXFbBCbC
  AYfEDs6XGM2YfFaOuBaPuC8D5E600XeTKXeUNuDX0XeVY5IaQXf0aRYfGXH2OYfHXJbDX1YfIa8YEXNYFYFZ6YGXLY8XMaSX
  NYCXEYfJ7uEaTY1SGMuFX8XmSBYfKYEXOY3uGXUfV3uHXDuIXEXY01JX4uJFHTYfLJuKXFbBCbCAYfMDs7XGM2YfNaOuLaPu
  M8D5E600XY1KXY2NuNX0XY3Y5IaQXY4aRYfOXH2OYfPXJbDX1YfQa8YEXNYFYFZ6YGXLY8XMaSXNYCVnL7jIY1YfRSGMp2dQ
  jJX8XVBp3mFaDZ3X03aAXDaBXEY01JX4jKFHTkQJaCXFUXGY72a9YTaE8D5E600VKX1NaFX0IXVkRXH2OVwQ7s9Y1YfSScNM
  p2dQsAX8e5Bp3mGaUZ3YB3b0XDb1XEZ41cOX4sBFcPTuOJb2XFYNXGY72aVYTb38XS5XT600Y6KZ5NcBX0YAXVbAXH2OVyT7
  tQY1YfTScNMp2iDtRX8e5Bp3mHu1Z3YB3tTXDtUXEZ41cOX4tVFcPTwRJu0XFs2XGY72tSYTu28XS5XT600Y6KZ5Nu3X0YAX
  VwSXH2OVhD7f1Y1YfUSGMp2dQf2X8XVBp3mIeAZ3X03e7XDe8XEY01JX4f3FHTg0Je9XFUXGY72e6YTeB8D5E600VKX1NeCX
  0IXVg1XH2OVsC7oQY1YfVScNMp2dQr1X8e5BoVZ3YB3p3mJoSXDoTXEZ41cOX4tCFcPTr2JoUXFYNXGY72oRYTp08XS5XT60
  0Y6KZ5Np1X0YAXVr3XH2OVyU7u4Y1Yg0SGMp2mKu5X8XVBp3bUuBZ3X03u7XDu8XEY01JX4u9FHTwTJuAXFs6XGY72u6YTuC
  8D5E600VKX1NuDX0IXVwUXH2OVyV7uEY1Yg1SGMp2iDuFX8Y8BuLZ3X03uHXDuIXEY91JX4uJFHTp3iEwVJuKXFs7XGY72uG
  YTuM8D5E600VKX1NuNX0IXVx0XH2OVz07tDY1Yg2SGMp2dQtEX8XVBtKZ3X03tGXDp3mLtHXEY01JX4tIFHTx1JtJXFUXGY7
  2tFYTtL8D5E600VKX1NtMX0IXVx2XH2OVz17tNY1Yg3SGMp2dQtOX8XVBnIZ3X03nFXDnGXEY01p3mMJX4tPFHTx3JnHXFUX
  GY72nEYTnJ8D5E600VKX1NnKX0IXVsDXH2OVc47b4Y1Yg4SGMp2dQb5X8Y8BXGZ3X03XCXDXDXEY91JX4b6FHTp3iEbEJXEX
  FUXGY72XFYTXK8D5E600VKX1NXHX0IXVYTXH2OX1bL7k1SXRMiP44cLYGB5mNYPYEXOY3YH3YI1bREaKJ6HkNCkOAlGDkS2X
  MYH758600YJKYKNYQY5YLYPaLXJkPX1YEXNYFYFZ6YGXLY8XNYCX1bL7k1SXRMhC44cLYGB5mOYPYEXOY3YH3YI1XUEaKJ6H
  kNCkOAlGDkS2XMYH758600YJKYKNYQY5YLYPaLXJkPX1YEXNYFYFZ6YGXLY8XNYCX1bL7k1SXRMwK44iFYGB5mPYPYEXOY3Y
  H3YI1oKEaKJ6HkNCkOAlGDkS2XMYH758600YJKYKNYQY5YLYPaLXJkPX1YEXNYFYFZ6YGXLY8XNYCX1bL7k1SXRMwM44cLYG
  B5mQYPYEXOY3YH3YI1iOEaKJ6HkNCkOAlGDkS2XMYH758600YJKYKNYQY5YLYPaLXJkPX1YEXNYFYFZ6YGXLY8XNYCX2bL7k
  1SXRMjG44cLYGBeVZSYPYEXOY3YH3YI1XQE5dRaKJ6HkNCkOAlGDkS2XMYH758600YJKYKNYQY5YLYPaLXJkPX1YEXNYFYFZ
  6YGXLY8XNYCX3bL7k1SXRMiP44cLYGBwLb2YPYEXOY3YH3k2X7YI1bRE5dRaKJ6HkNCkOAlGDkS2XMYH758600YJKYKNYQY5
  YLYPaLXJkPX1YEXNYFYFZ6YGXLY8XNYCX5sC7oQgPXmUYUXmVMYg5X8e5BoVY2cGZ6Xn0Z7cHY3oRXUYB3oSXDoTXEZ41dMX
  4Yg6FdNTr2JoUXFYNXGM2p08XS5XT600Y6KZ5Np1X0YAXVr3XH2OXn1YSXn2ZAcJXNcKZBcLZ8X2bL7k1SXRMoM44cLYGBf0
  b2YPYEXOY3YH3YI1bRE5dRiQJ6HYg7CYg8AlGDkS2XMYH758600YJKYKNYQY5YLYPiRXJYg9X1d2XNd3YFcMYGXLY8XNYCX5
  sC7oQgPXmUYUXmVMr1X8e5BoVY2cGZ6Xn0Z7cHY3oRXUYB3oSXDoTXEZ41Xm0X4YgAFXm1Tr2JoUXFYNXGM2p08XS5XT600Y
  6KZ5Np1X0YAXVr3XH2OXn1YSXn2ZAcJXNcKZBcLZ8X2Xf17YgBSXRMoM44cLuPBf0YNXY5YEyPY3XY63XY71bRE5dRXf2J6H
  YgCCYgDAYgEDkS2ySYHO5P600XY8KXY9NXf3Y5XYAYPXf4XJYgFX1XXLXNXXMYFyQYGyRY8s8YCX5sC7oQgPYgGYUYgHMr1X
  8e5BoVY2YgIZ6YgJZ7YgKY3oRXUYB3oSXDoTXEZ41YgLX4YgMFYgNTr2JoUXFYNXGM2p08XS5XT600Y6KZ5Np1X0YAXVr3XH
  2OYgOYSYgPZAYgQXNYgRZBYgSZ8X1bL7k1SXRMjH44cLYGBYPYEXOY3YH35mRYI1hUEaKJ6HkNCkOAlGDkS2XMYH758600YJ
  KYKNYQY5YLYPaLXJkPX1YEXNYFYFZ6YGXLY8XNYCX1bL7k1SXRMwN44mSYGB5mTYPYEXOY3YH3YI1oNEaKJ6HkNCkOAlGDkS
  2XMYH758600YJKYKNYQY5YLYPaLXJkPX1YEXNYFYFZ6YGXLY8XNYCX2bL7k1SXRMYC44cLYGBYPYEXOY3YH3k2X7YI1XQE5d
  RaKJ6HkNCkOAlGDkS2XMYH758600YJKYKNYQY5YLYPaLXJkPX1YEXNYFYFZ6YGXLY8XNYCX1bL7k1SXRMwO44cLYGBYPYEXO
  Y3YH35mUYI1oOEaKJ6HkNCkOAlGDkS2XMYH758600YJKYKNYQY5YLYPaLXJkPX1YEXNYFYFZ6YGXLY8XNYCX1bL7k1SXRMlF
  44cLYGBYPYEXOY3YH3YI15mVeLEaKJ6HkNCkOAlGDkS2XMYH758600YJKYKNYQY5YLYPaLXJkPX1YEXNYFYFZ6YGXLY8XNYC
  X1bL7k1SXRMwP44iFYGBYPYEXOY3YH3YI1oPE5dRaKJ6HkNCkOAlGDkS2XMYH758600YJKYKNYQY5YLYPaLXJkPX1YEXNYFY
  FZ6YGXLY8XNYCX1bL7k1SXRMYC44cLYGBYPYEXOY3YH3YI1XQE5dRaKJ6HkNCkOAlGDkS2XMYH758600YJKYKNYQY5YLYPaL
  XJkPX1YEXNYFYFZ6YGXLY8XNYCX2YgT7Xm3cMGMXm4X8Y8BeAY2e6XUX03XXDYAe7XDe8XEY91JX4Xm5FHTYgUJe9XFa8YBU
  XGM2eB8D5E600VKX1NeCX0YgVY5IZOYh0XH2OYh1XJXmAYKXmBY95kTgQmJiGx4BYh29005kTgQmJiGx4BYh39004kTgQmJc
  Gx4B007nMbVp4c0j7c1iC4iSbU00Xf5YJX2d47c1cMGMc2X8cQBXGY2XFXUX03XXDYAXCXDXDXEhE1JX4c3FHTd5JXEXFa8Y
  BUXGM2XK8D5E600VKX1NXHX0p5Y5IZOd6XH2Op6XJmIYKlEY9X2d47c1cMGMc2X8cQBXGY2XFXUX03Xn3YAXCXDXDXEhE1JX
  4c3FHTd5JXEXFa8YBUXGM2XK8D5E600VKX1NXHX0p5Y5IZOd6XH2Op6XJmIYKlEY9X2d47c1cMGMc2X8cQBXGY2XFXUX03Yh
  4YAXCXDXDXEhE1JX4c3FHTd5JXEXFa8YBUXGM2XK8D5E600VKX1NXHX0p5Y5IZOd6XH2Op6XJmIYKlEY9X2d47c1cMGMc2X8
  cQBXGY2XFXUX03Yh5YAXCXDXDXEhE1JX4c3FHTd5JXEXFa8YBUXGM2XK8D5E600VKX1NXHX0p5Y5IZOd6XH2Op6XJmIYKlEY
  9X2d47c1cMGMc2X8cQBXGY2XFXUX03Yh6YAXCXDXDXEhE1JX4c3FHTd5JXEXFa8YBUXGM2XK8D5E600VKX1NXHX0p5Y5IZOd
  6XH2Op6XJmIYKlEY9X2d47c1cMGMc2X8cQBXGY2XFXUX03Xn4YAXCXDXDXEhE1JX4c3FHTd5JXEXFa8YBUXGM2XK8D5E600V
  KX1NXHX0p5Y5IZOd6XH2Op6XJmIYKlEY9X2d47c1cMGMc2X8cQBXGY2XFXUX03Yh7YAXCXDXDXEhE1JX4c3FHTd5JXEXFa8Y
  BUXGM2XK8D5E600VKX1NXHX0p5Y5IZOd6XH2Op6XJmIYKlEY9X2d47c1cMGMc2X8cQBXGY2XFXUX03Xn5YAXCXDXDXEhE1JX
  4c3FHTd5JXEXFa8YBUXGM2XK8D5E600VKX1NXHX0p5Y5IZOd6XH2Op6XJmIYKlEY9X2d47c1cMGMc2X8cQBXGY2XFXUX03Yh
  8YAXCXDXDXEhE1JX4c3FHTd5JXEXFa8YBUXGM2XK8D5E600VKX1NXHX0p5Y5IZOd6XH2Op6XJmIYKlEY9Vp77hRY1GMhSX8Y
  8Bx5RaDY2a9XUX03aAXDaBXEY91Yh9XRJX4hTFHTp8JaCXFbKYBUXGM2aE8D5E600VKX1NaFX0IXVp9XH2O5z2bVXn6c0pAc
  1pBn0003z3cRXYBcG003z4cRXYCcG006z5bVXn7c0z6c1z7bU00Xf6YJ3r4cRXYDcG003r5cRXYEcG006z8bVXn8c0z9c1zA
  bU00Xf7YJ6zBbVXn9c0zCc1zDbU00Xf8YJ6zEbVXnAc0zFc1zGbU00Xf9YJ6zHbVXnBc0zIc1x6bU00XfAYJX1d47c1cMGMc
  2X8cQBXGY2XFXUX03XCXDXDXEhE1JX4c3FHTd5JXEXFa8YBUXGM2XK8D5E600VKX1NXHX0p5Y5IZOd6XH2Op6XJmIYKlEY96
  zJbVXnCc0zKc1zLbU00XfBYJ6zMbVXnDc0zNc1zObU00XfCYJ6zPbVXnEc0zQc1zRbU00XfDYJ6zSbVXnFc0zTc1x7bU00Xf
  EYJ6zUbVXnGc0zVc1x8bU00XfFYJ6-0bVXnHc0-1c1-2bU00XfGYJ6-3bVXnIc0-4c1x9bU00XfHYJ4nMiHp4cG00YhAYJ3u
  QcR-5cG003lHcRlIcG004lHiHlIcG00YhBYJ3-6cR-7cG003uRcR-8cG003uScRuTcG003-9cR-AcG00Vp77hRY1GMhSX8Y8
  Bx5RaDY2a9XUX03aAXDaBXEY91YhCXRJX4hTFHTp8JaCXFbKYBUXGM2aE8D5E600VKX1NaFX0IXVp9XH2OVp77hRY1GMhSX8
  Y8Bx5RaDY2a9XUX03aAXDaBXEY91YhDXRJX4hTFHTp8JaCXFbKYBUXGM2aE8D5E600VKX1NaFX0IXVp9XH2OVp77hRY1GMhS
  X8Y8Bx5RaDY2a9XUX03aAXDaBXEY91YhEXRJX4hTFHTp8JaCXFbKYBUXGM2aE8D5E600VKX1NaFX0IXVp9XH2OVp77hRY1GM
  hSX8Y8Bx5RaDY2a9XUX03aAXDaBXEY91YhFXRJX4hTFHTp8JaCXFbKYBUXGM2aE8D5E600VKX1NaFX0IXVp9XH2OVp77hRY1
  GMhSX8Y8Bx5RaDY2a9XUX03aAXDaBXEY91YhGXRJX4hTFHTp8JaCXFbKYBUXGM2aE8D5E600VKX1NaFX0IXVp9XH2OVYhH7Y
  hIY1GMYhJX8XnJBpCRnIY2nEXUX03nFXDnGXEXnK1XfIXRJX4YhKFHTYhLJnHXFa8YBUXGM2nJ8D5E600VKX1NnKX0IXVXnL
  XH2OTnL7jIY1GMjJX8XVBbSn1aDY2a9XUX03aAXDaBXEJX4jKFHTkQJaCXFk3n2UXGM2aE8D5E600VKX1NaFX0IXVkRXH2OT
  nL7jIY1GMjJX8XVBbSn3aDY2a9XUX03aAXDaBXEJX4jKFHTkQJaCXFUXGM2aE8D5E600VKX1NaFX0IXVkRXH2Ok3XQVd47c1
  Y1GMc2X8cQBpCRXGY2XFXUX03XCXDXDXEhE1YhMXRJX4c3FHTd5JXEXFa8YBUXGM2XK8D5E600VKX1NXHX0IXVd6XH2OX0Yh
  N7YhOiIGMYhPX8XnMBaDY2YhQZ6YhRZ7YhSY3a9XUX03cIYIaAXDaBXEXnN1JX4YhTFHTYhUJaCXFUXGM2aE8D5E600VKX1N
  aFX0IXVYhVXH2OUp77hRY1GMhSX8Y8BXfJb2aDY2a9XUX03aAXDaBXEY91JX4hTFHTp8JaCXFbKYBUXGM2aE8D5E600VKX1N
  aFX0IXVp9XH2OVYi07Yi1Y1GMYi2X8XnJBpCRnIY2nEXUX03nFXDnGXEXnK1XfIXRJX4Yi3FHTYi4JnHXFa8YBUXGM2nJ8D5
  E600VKX1NnKX0IXVXnLXH2OTc47b4Y1GMb5X8Y8BbSn4XGY2XFXUX03XCXDXDXEJX4b6FHTbEJXEXFUXGM2XK8D5E600VKX1
  NXHX0IXVYTXH2Ok3XQVp77hRY1GMhSX8Y8BXfJRaDY2a9XUX03aAXDaBXEY91Yi5XRJX4hTFHTp8JaCXFbKYBUXGM2aE8D5E
  600VKX1NaFX0IXVp9XH2OVd47c1Y1GMc2X8cQBpCRXGY2XFXUX03XCXDXDXEhE1XfIXRJX4c3FHTd5JXEXFa8YBUXGM2XK8D
  5E600VKX1NXHX0IXVd6XH2OVp77hRY1GMhSX8Y8BXfJRaDY2a9XUX03aAXDaBXEY91Yi6XRJX4hTFHTp8JaCXFbKYBUXGM2a
  E8D5E600VKX1NaFX0IXVp9XH2OAhVfT4cKqV4i0fUf0ZSiOE5ZT6H00gHX1AhFfT4cKqV4hGfUf0ZSiOE5ZT6H00gHX1Ud47
  c1Y1GMc2X8cQBYi7b2XGY2XFXUX03XCXDXDXEhE1JX4c3FHTd5JXEXFa8YBUXGM2XK8D5E600VKX1NXHX0IXVd6XH2OAhVfT
  4cKjG4i0fUeVZSXQE5ZT6H00gHX1AhFfT4cKjG4hGfUeVZSXQE5ZT6H00gHX1ThD7f1Y1GMf2X8XVBbSn5eAY2e6XUX03e7X
  De8XEJX4f3FHTg0Je9XFUXGM2eB8D5E600VKX1NeCX0IXVg1XH2Ok3XQX1d47c1cMGMc2X8cQBXGY2XFXUX03XCXDXDXEhE1
  Yi8X4c3FHTd5JXEXFa8YBUXGM2XK8D5E600VKX1NXHX0Yi9Y5IZOd6XH2OYiAXJmIYKlEY9VhD7f1Y1GMf2X8XVBdOReAY2e
  6XUX03YiBYAe7XDe8XEY01JX4f3FHTg0Je9XFsEYBUXGM2eB8D5E600VKX1NeCX0IXVg1XH2OTwQ7s9Y1cNMsAX8e5BbSdGa
  UY2aVXUYB3b0XDb1XEcOX4sBFcPTuOJb2XFYNXGM2b38XS5XT600Y6KZ5NcBX0YAXVbAXH2Ok3XQVhD7f1Y1GMf2X8XVBdOR
  eAY2e6XUX03YiCYAe7XDe8XEY01JX4f3FHTg0Je9XFsEYBUXGM2eB8D5E600VKX1NeCX0IXVg1XH2OVhD7f1Y1GMf2X8XVBd
  OReAY2e6XUX03YiDYAe7XDe8XEY01JX4f3FHTg0Je9XFsEYBUXGM2eB8D5E600VKX1NeCX0IXVg1XH2OVhD7f1Y1GMf2X8XV
  BdOReAY2e6XUX03YiEYAe7XDe8XEY01JX4f3FHTg0Je9XFsEYBUXGM2eB8D5E600VKX1NeCX0IXVg1XH2OVhD7f1Y1GMf2X8
  XVBdOReAY2e6XUX03YiFYAe7XDe8XEY01JX4f3FHTg0Je9XFsEYBUXGM2eB8D5E600VKX1NeCX0IXVg1XH2OVhD7f1Y1GMf2
  X8XVBdOReAY2e6XUX03YiGYAe7XDe8XEY01JX4f3FHTg0Je9XFsEYBUXGM2eB8D5E600VKX1NeCX0IXVg1XH2OVhD7f1Y1GM
  f2X8XVBdOReAY2e6XUX03YiHYAe7XDe8XEY01JX4f3FHTg0Je9XFsEYBUXGM2eB8D5E600VKX1NeCX0IXVg1XH2OTsC7oQY1
  cNMr1X8e5BbSdGoVY2oRXUYB3oSXDoTXEcOX4tCFcPTr2JoUXFYNXGM2p08XS5XT600Y6KZ5Np1X0YAXVr3XH2Ok3XQTyT7t
  QY1cNMtRX8e5BbSdGu1Y2tSXUYB3tTXDtUXEcOX4tVFcPTwRJu0XFs2XGM2u28XS5XT600Y6KZ5Nu3X0YAXVwSXH2Ok3XQTy
  U7u4Y1GMu5X8XVBbSdGuBY2u6XUX03u7XDu8XEJX4u9FHTwTJuAXFs6XGM2uC8D5E600VKX1NuDX0IXVwUXH2Ok3XQTz07tD
  Y1GMtEX8XVBbSdGtKY2tFXUX03tGXDtHXEJX4tIFHTx1JtJXFUXGM2tL8D5E600VKX1NtMX0IXVx2XH2Ok3XQTz17tNY1GMt
  OX8XVBbSdGnIY2nEXUX03nFXDnGXEJX4tPFHTx3JnHXFUXGM2nJ8D5E600VKX1NnKX0IXVsDXH2Ok3XQTyV7uEY1GMuFX8Y8
  BbSdGuLY2uGXUX03uHXDuIXEJX4uJFHTwVJuKXFs7XGM2uM8D5E600VKX1NuNX0IXVx0XH2Ok3XQX0d47c1iJGMc2X8cQBXG
  Y2XFXUX03XCXDXDXEhE1JX4c3FHTd5JXEXFa8YBUXGM2XK8D5E600VKX1NXHX0XXCY5IZOd6XH2OXnOXJlEY9Tp77hRY1GMh
  SX8Y8BaDY2a9XUX03aAXDaBXEY91JX4hTFHTp8JaCXFa8YBUXGM2aE8D5E600VKX1NaFX0IXVp9XH2OX0d47c1iJGMc2X8cQ
  BXGY2XFXUX03XCXDXDXEhE1JX4c3FHTd5JXEXFa8YBUXGM2XK8D5E600VKX1NXHX0YiIY5IZOd6XH2OYiJXJlEY9UnL7jIY1
  GMjJX8XVBXnPb2aDY2a9XUX03aAXDaBXEY01JX4jKFHTkQJaCXFXfKYBUXGM2aE8D5E600VKX1NaFX0IXVkRXH2OTYiK7b4Y
  1GMb5X8Y8BXGY2XFXUX03XCXDXDXEY91JX4b6FHTbEJXEXFUXGM2XK8D5E600VKX1NXHX0XfLY5IZOYTXH2OTd47c1Y1GMc2
  X8cQBXGY2XFXUX03XCXDXDXEhE1JX4c3FHTd5JXEXFa8YBUXGM2XK8D5E600VKX1NXHX0IXVd6XH2OTYiL7s9Y1cNMsAX8e5
  BaUY2aVXUYB3b0XDb1XEZ41cOX4sBFcPTuOJb2XFYNXGM2b38XS5XT600Y6KZ5NcBX0XfMY5YAZObAXH2OTYiM7f1Y1GMf2X
  8XVBeAY2e6XUX03e7XDe8XEY01JX4f3FHTg0Je9XFUXGM2eB8D5E600VKX1NeCX0uUY5IZOg1XH2OTYiN7jIY1GMjJX8XVBa
  DY2a9XUX03aAXDaBXEY01JX4jKFHTkQJaCXFUXGM2aE8D5E600VKX1NaFX0uUY5IZOkRXH2OTYiO7b4Y1GMb5X8Y8BXGY2XF
  XUX03XCXDXDXEY91JX4b6FHTbEJXEXFUXGM2XK8D5E600VKX1NXHX0uUY5IZOYTXH2OTYiP7jIY1GMjJX8XVBaDY2a9XUX03
  aAXDaBXEY01JX4jKFHTkQJaCXFUXGM2aE8D5E600VKX1NaFX0XnQY5IZOkRXH2OTYiQ7b4Y1GMb5X8Y8BXGY2XFXUX03XCXD
  XDXEY91JX4b6FHTbEJXEXFUXGM2XK8D5E600VKX1NXHX0XnQY5IZOYTXH2OTYiR7jIY1GMjJX8XVBaDY2a9XUX03aAXDaBXE
  Y01JX4jKFHTkQJaCXFUXGM2aE8D5E600VKX1NaFX0YiSY5IZOkRXH2OUhD7f1Y1GMf2X8XVBXnPc2eAY2e6XUX03e7XDe8XE
  Y01JX4f3FHTg0Je9XFsEYBUXGM2eB8D5E600VKX1NeCX0IXVg1XH2OTYiT7f1Y1GMf2X8XVBeAY2e6XUX03e7XDe8XEY01JX
  4f3FHTg0Je9XFUXGM2eB8D5E600VKX1NeCX0XfLY5IZOg1XH2OTYiU7oQY1cNMr1X8e5BoVY2oRXUYB3oSXDoTXEZ41cOX4t
  CFcPTr2JoUXFYNXGM2p08XS5XT600Y6KZ5Np1X0XfMY5YAZOr3XH2OTYiV7tDY1GMtEX8XVBtKY2tFXUX03tGXDtHXEY01JX
  4tIFHTx1JtJXFUXGM2tL8D5E600VKX1NtMX0uUY5IZOx2XH2OTYj07jIY1GMjJX8XVBaDY2a9XUX03aAXDaBXEY01JX4jKFH
  TkQJaCXFUXGM2aE8D5E600VKX1NaFX0XfLY5IZOkRXH2OTYj17tQY1cNMtRX8e5Bu1Y2tSXUYB3tTXDtUXEZ41cOX4tVFcPT
  wRJu0XFs2XGM2u28XS5XT600Y6KZ5Nu3X0XfMY5YAZOwSXH2OTYj27tNY1GMtOX8XVBnIY2nEXUX03nFXDnGXEY01JX4tPFH
  Tx3JnHXFUXGM2nJ8D5E600VKX1NnKX0uUY5IZOsDXH2OTYj37u4Y1GMu5X8XVBuBY2u6XUX03u7XDu8XEY01JX4u9FHTwTJu
  AXFs6XGM2uC8D5E600VKX1NuDX0uUY5IZOwUXH2OTYj47uEY1GMuFX8Y8BuLY2uGXUX03uHXDuIXEY91JX4uJFHTwVJuKXFs
  7XGM2uM8D5E600VKX1NuNX0uUY5IZOx0XH2OTwQ7s9Y1cNMsAX8e5BaUY2aVXUYB3Yj5Z2b0XDb1XEZ41cOX4sBFcPTuOJb2
  XFYNXGM2b38XS5XT600Y6KZ5NcBX0YAXVbAXH2OVd47c1fVGMc2X8cQBXGY2XFXUX03XCXDXDXEhE1JX4c3FHTd5JXEXFa8Y
  BUXGM2XK8D5E600VKX1NXHX0XXCY5IZOd6XH2OXnOXJTnL7jIY1GMjJX8XVBaDY2a9XUX03cIYIaAXDaBXEY01JX4jKFHTkQ
  JaCXFUXGM2aE8D5E600VKX1NaFX0IXVkRXH2OVd47c1fVGMc2X8cQBXGY2XFXUX03XCXDXDXEhE1JX4c3FHTd5JXEXFa8YBU
  XGM2XK8D5E600VKX1NXHX0Xm2Y5IZOd6XH2OYj6XJVd47c1fVGMc2X8cQBXGY2XFXUX03XCXDXDXEhE1JX4c3FHTd5JXEXFa
  8YBUXGM2XK8D5E600VKX1NXHX0Yj7Y5IZOd6XH2OYj8XJVd47c1fVGMc2X8cQBXGY2XFXUX03XCXDXDXEhE1JX4c3FHTd5JX
  EXFa8YBUXGM2XK8D5E600VKX1NXHX0Yj9Y5IZOd6XH2OYjAXJVYjB7YjCiIGMYjDX8XnMBXGY2YjEZ6YjFZ7YjGY3XFXUX03
  XCXDXDXEXnN1JX4YjHFHTYjIJXEXFUXGM2XK8D5E600VKX1NXHX0IXVYjJXH2OThD7f1Y1GMf2X8XVBeAY2e6XUX03YjKYAe
  7XDe8XEY01JX4f3FHTg0Je9XFUXGM2eB8D5E600VKX1NeCX0IXVg1XH2OThD7f1Y1GMf2X8XVBeAY2e6XUX03YjLYAe7XDe8
  XEY01JX4f3FHTg0Je9XFUXGM2eB8D5E600VKX1NeCX0IXVg1XH2OThD7f1Y1GMf2X8XVBeAY2e6XUX03YjMYAe7XDe8XEY01
  JX4f3FHTg0Je9XFUXGM2eB8D5E600VKX1NeCX0IXVg1XH2OThD7f1Y1GMf2X8XVBeAY2e6XUX03YjNYAe7XDe8XEY01JX4f3
  FHTg0Je9XFUXGM2eB8D5E600VKX1NeCX0IXVg1XH2OThD7f1Y1GMf2X8XVBeAY2e6XUX03YjOYAe7XDe8XEY01JX4f3FHTg0
  Je9XFUXGM2eB8D5E600VKX1NeCX0IXVg1XH2OThD7f1Y1GMf2X8XVBeAY2e6XUX03YjPYAe7XDe8XEY01JX4f3FHTg0Je9XF
  UXGM2eB8D5E600VKX1NeCX0IXVg1XH2OThD7f1Y1GMf2X8XVBeAY2e6XUX03YjQYAe7XDe8XEY01JX4f3FHTg0Je9XFUXGM2
  eB8D5E600VKX1NeCX0IXVg1XH2OThD7f1Y1GMf2X8XVBeAY2e6XUX03YjRYAe7XDe8XEY01JX4f3FHTg0Je9XFUXGM2eB8D5
  E600VKX1NeCX0IXVg1XH2OSwQ7s9Y1cNMsAX8e5BaUY2aVXUYB3b0XDb1XEZ41cOX4sBFcPTuOJb2XFYNXGM2b38XS5XT600
  Y6KZ5NcBX0YAXVbAXH2OSwQ7s9Y1cNMsAX8XfNBaUY2aVXUYB3b0XDb1XEZ41cOX4sBFcPTuOJb2XFYNXGM2b38XS5XT600Y
  6KZ5NcBX0YAXVbAXH2OShD7f1Y1GMf2X8XVBeAY2e6XUX03e7XDe8XEY01JX4f3FHTg0Je9XFUXGM2eB8D5E600VKX1NeCX0
  IXVg1XH2OSyU7u4Y1GMu5X8XVBuBY2u6XUX03u7XDu8XEY01JX4u9FHTwTJuAXFs6XGM2uC8D5E600VKX1NuDX0IXVwUXH2O
  SnL7jIY1GMjJX8XVBaDY2a9XUX03aAXDaBXEY01JX4jKFHTkQJaCXFUXGM2aE8D5E600VKX1NaFX0IXVkRXH2OSYjS7YjTY1
  GMYjUX8XVBnIY2nEXUX03nFXDnGXEY01JX4YjVFHTYk0JnHXFUXGM2nJ8D5E600VKX1NnKX0IXVsDXH2OSYk17Yk2Y1GMYk3
  X8XVBnIY2nEXUX03nFXDnGXEY01JX4Yk4FHTYk5JnHXFUXGM2nJ8D5E600VKX1NnKX0IXVsDXH2OShD7f1Y1GMf2X8-BBeAY
  2e6XUX03e7XDe8XEY01JX4f3FHTg0Je9XFUXGM2eB8D5E600VKX1NeCX0IXVg1XH2OSsC7oQY1cNMr1X8XfNBoVY2oRXUYB3
  oSXDoTXEZ41cOX4tCFcPTr2JoUXFYNXGM2p08XS5XT600Y6KZ5Np1X0YAXVr3XH2OSnL7jIY1GMjJX8-BBaDY2a9XUX03aAX
  DaBXEY01JX4jKFHTkQJaCXFUXGM2aE8D5E600VKX1NaFX0IXVkRXH2OSyT7tQY1cNMtRX8XfNBu1Y2tSXUYB3tTXDtUXEZ41
  cOX4tVFcPTwRJu0XFs2XGM2u28XS5XT600Y6KZ5Nu3X0YAXVwSXH2OSc47b4Y1GMb5X8XnRBXGY2XFXUX03XCXDXDXEY91JX
  4b6FHTbEJXEXFUXGM2XK8D5E600VKX1NXHX0IXVYTXH2OSyU7u4Y1GMu5X8-BBuBY2u6XUX03u7XDu8XEY01JX4u9FHTwTJu
  AXFs6XGM2uC8D5E600VKX1NuDX0IXVwUXH2OSz07tDY1GMtEX8-BBtKY2tFXUX03tGXDtHXEY01JX4tIFHTx1JtJXFUXGM2t
  L8D5E600VKX1NtMX0IXVx2XH2OSz17tNY1GMtOX8-BBnIY2nEXUX03nFXDnGXEY01JX4tPFHTx3JnHXFUXGM2nJ8D5E600VK
  X1NnKX0IXVsDXH2OSyV7uEY1GMuFX8XnRBuLY2uGXUX03uHXDuIXEY91JX4uJFHTwVJuKXFs7XGM2uM8D5E600VKX1NuNX0I
  XVx0XH2OSYk67Yk7Y1GMYk8X8Y8BXGY2XFXUX03XCXDXDXEY91JX4Yk9FHTYkAJXEXFUXGM2XK8D5E600VKX1NXHX0IXVYkB
  XH2OU-CSXYFbF-DYU-EMXfO4-FXBlJX8lKB5eFh9XIlLZ6lMZ7lNY34gRb73ZMX7lOX4lPFlQTXUE6Hb82002OZNX1lRYSuV
  ZAlSXNlTZBlUZ8SYkC7XmPY1GMXmQX8Y8BaDY2a9XUX03aAXDaBXEY91JX4XmRFHTYkDJaCXFUXGM2aE8D5E600VKX1NaFX0
  IXVYkEXH2OSYkF7YkGY1GMYkHX8cQBXGY2XFXUX03XCXDXDXEhE1JX4YkIFHTYkJJXEXFUXGM2XK8D5E600VKX1NXHX0IXVY
  kKXH2OSz07tDY1GMtEX8XVBtKY2tFXUX03tGXDtHXEY01JX4tIFHTx1JtJXFUXGM2tL8D5E600VKX1NtMX0IXVx2XH2OSz17
  tNY1GMtOX8XVBnIY2nEXUX03nFXDnGXEY01JX4tPFHTx3JnHXFUXGM2nJ8D5E600VKX1NnKX0IXVsDXH2OSc47b4Y1GMb5X8
  Y8BXGY2XFXUX03XCXDXDXEY91JX4b6FHTbEJXEXFUXGM2XK8D5E600VKXfPNXHX0IXVYTXH2OSsC7oQY1cNMr1X8e5BoVY2o
  RXUYB3oSXDoTXEZ41cOX4tCFcPTr2JoUXFYNXGM2p08XS5XT600Y6KZ5Np1X0YAXVr3XH2OSwQ7s9Y1cNMsAX8e5BaUY2aVX
  UYB3b0XDb1XEZ41cOX4sBFcPTuOJb2XFYNXGM2b38XS5XT600Y6KXfQNcBX0YAXVbAXH2OU-CSXYFbF-DYU-EMXfO4-FXBlJ
  X8lKB5eFhAXIlLZ6lMZ7lNY34gRb73ZMX7lOX4lPFlQTXUE6Hb82002OZNX1lRYSuVZAlSXNlTZBlUZ8SyT7tQY1cNMtRX8e
  5Bu1Y2tSXUYB3tTXDtUXEZ41cOX4tVFcPTwRJu0XFs2XGM2u28XS5XT600Y6KZ5Nu3X0YAXVwSXH2OShD7f1Y1GMf2X8XVBe
  AY2e6XUX03e7XDe8XEY01JX4f3FHTg0Je9XFUXGM2eB8D5E600VKv0NeCX0IXVg1XH2OSyV7uEY1GMuFX8Y8BuLY2uGXUX03
  uHXDuIXEY91JX4uJFHTwVJuKXFs7XGM2uM8D5E600VKX1NuNX0IXVx0XH2OU-CSXYFbF-DYU-EMXfO4-FXBlJX8lKB5eFhBX
  IlLZ6lMZ7lNY34gRb73ZMX7lOX4lPFlQTXUE6Hb82002OZNX1lRYSuVZAlSXNlTZBlUZ8Sc47b4Y1GMb5X8Y8BXGY2XFXUX0
  3XCXDXDXEY91JX4b6FHTbEJXEXFUXGM2XK8D5E600VKv0NXHX0IXVYTXH2OSnL7jIY1GMjJX8XVBaDY2a9XUX03aAXDaBXEY
  01JX4jKFHTkQJaCXFUXGM2aE8D5E600VKXnSNaFX0IXVkRXH2OSc47b4Y1GMb5X8Y8BXGY2XFXUX03XCXDXDXEY91JX4b6FH
  TbEJXEXFUXGM2XK8D5E600VKXnSNXHX0IXVYTXH2OSnL7jIY1GMjJX8XVBaDY2a9XUX03aAXDaBXEY01JX4jKFHTkQJaCXFU
  XGM2aE8D5E600VKYkLNaFX0IXVkRXH2OSYkM7YkNY1GMYkOX8Y8BXGY2XFXUX03XCXDXDXEY91JX4YkPFHTYkQJXEXFUXGM2
  XK8D5E600VKX1NXHX0IXVYkRXH2OShD7f1Y1GMf2X8XVBeAY2e6XUX03e7XDe8XEY01JX4f3FHTg0Je9XFUXGM2eB8D5E600
  VKXfPNeCX0IXVg1XH2OSc47b4Y1GMb5X8Y8BXGY2XFXUX03XCXDXDXEY91JX4b6FHTbEJXEXFUXGM2XK8D5E600VKX1NXHX0
  IXVYTXH2OSsC7oQY1cNMr1X8e5BoVY2oRXUYB3oSXDoTXEZ41cOX4tCFcPTr2JoUXFYNXGM2p08XS5XT600Y6KXfQNp1X0YA
  XVr3XH2OSnL7jIY1GMjJX8XVBaDY2a9XUX03aAXDaBXEY01JX4jKFHTkQJaCXFUXGM2aE8D5E600VKv0NaFX0IXVkRXH2OSY
  kS7YkTY1GMYkUX8Y8BXGY2XFXUX03XCXDXDXEY91JX4YkVFHTYl0JXEXFUXGM2XK8D5E600VKX1NXHX0IXVYl1XH2OSnL7jI
  Y1GMjJX8XVBaDY2a9XUX03aAXDaBXEY01JX4jKFHTkQJaCXFUXGM2aE8D5E600VKXfPNaFX0IXVkRXH2OSyT7tQY1cNMtRX8
  e5Bu1Y2tSXUYB3tTXDtUXEZ41cOX4tVFcPTwRJu0XFs2XGM2u28XS5XT600Y6KXfQNu3X0YAXVwSXH2OSyU7u4Y1GMu5X8XV
  BuBY2u6XUX03u7XDu8XEY01JX4u9FHTwTJuAXFs6XGM2uC8D5E600VKv0NuDX0IXVwUXH2OSYl27Yl3Y1GMYl4X8Y8BXGY2X
  FXUX03XCXDXDXEY91JX4Yl5FHTYl6JXEXFUXGM2XK8D5E600VKX1NXHX0IXVYl7XH2OSz07tDY1GMtEX8XVBtKY2tFXUX03t
  GXDtHXEY01JX4tIFHTx1JtJXFUXGM2tL8D5E600VKv0NtMX0IXVx2XH2OSYl87Yl9Y1GMYlAX8Y8BXGY2XFXUX03XCXDXDXE
  Y91JX4YlBFHTYlCJXEXFUXGM2XK8D5E600VKX1NXHX0IXVYlDXH2OSz17tNY1GMtOX8XVBnIY2nEXUX03nFXDnGXEY01JX4t
  PFHTx3JnHXFUXGM2nJ8D5E600VKv0NnKX0IXVsDXH2OSYlE7YlFY1GMYlGX8Y8BXGY2XFXUX03XCXDXDXEY91JX4YlHFHTYl
  IJXEXFUXGM2XK8D5E600VKX1NXHX0IXVYlJXH2OSYlK7YlLY1GMYlMX8Y8BXGY2XFXUX03XCXDXDXEY91JX4YlNFHTYlOJXE
  XFUXGM2XK8D5E600VKX1NXHX0IXVYlPXH2OSYlQ7YlRY1GMYlSX8Y8BXGY2XFXUX03XCXDXDXEY91JX4YlTFHTYlUJXEXFUX
  GM2XK8D5E600VKX1NXHX0IXVYlVXH2OSyV7uEY1GMuFX8Y8BuLY2uGXUX03uHXDuIXEY91JX4uJFHTwVJuKXFs7XGM2uM8D5
  E600VKv0NuNX0IXVx0XH2OSYm07Ym1Y1GMYm2X8Y8BXGY2XFXUX03XCXDXDXEY91JX4Ym3FHTYm4JXEXFUXGM2XK8D5E600V
  KX1NXHX0IXVYm5XH2OSYm67Ym7Y1GMYm8X8Y8BXGY2XFXUX03XCXDXDXEY91JX4Ym9FHTYmAJXEXFUXGM2XK8D5E600VKX1N
  XHX0IXVYmBXH2OKXfR7XfSgSr6SaI44bP5bGh9XIXfT3ZMX7mK1-GTXUE6HXfU2758600Z0LXfVXTZNX1KXfR7XfSgSr6SaI
  44bP5bGhAXIXfT3ZMX7mK1-GTXUE6HXfU2758600Z0LXfVXTZNX1KXfR7XfSgSr6SaI44bP5bGhBXIXfT3ZMX7mK1-GTXUE6
  HXfU2758600Z0LXfVXTZNX1R4gTr7YUr8MaI4lJX85eFh9XIlLZ6lMZ7lNY3b73ZMX7lOX4lPFlQTXUE6Hb82002OZNX1lRY
  Sv1ZAlSXNv2d6lTZBlUZ8R4gTr7YUr8MaI4lJX85eFhAXIlLZ6lMZ7lNY3b73ZMX7lOX4lPFlQTXUE6Hb82002OZNX1lRYSv
  1ZAlSXNv2d6lTZBlUZ8R4gTr7YUr8MaI4lJX85eFhBXIlLZ6lMZ7lNY3b73ZMX7lOX4lPFlQTXUE6Hb82002OZNX1lRYSv1Z
  AlSXNv2d6lTZBlUZ8Q-CSXYFbF-DYU-EMXnT4-FXBlJX8lKB5g0lLZ6lMZ7lNY34iKoIX7lOX4lPFlQTXUE6H002OlRYSuVZ
  AlSXNlTZBlUZ8Q-CSYmCbF-DYU-EMXnT4-FXBlJX8lKB5g0lLZ6lMZ7lNY34iKoJX7lOX4lPFlQTXUE6H002OlRYSuVZAlSX
  NlTZBlUZ8LNaUr6SaI44bP5bGh9XIb73ZMX7mK1eMFXUE6Hb82758600Z0LlVXJbFXTZNX1m0Y9LNaUr6SaI44bP5bGhAXIb
  73ZMX7mK1eMFXUE6Hb82758600Z0LlVXJbFXTZNX1m0Y9LNaUr6SaI44bP5bGhBXIb73ZMX7mK1eMFXUE6Hb82758600Z0Ll
  VXJbFXTZNX1m0Y9JNZRr6SaI44bP5bGh9XIb73ZMX7mK1eMFXUE6Hb82758600Z0LbFXTZNX1GNY04gUaI45bGh9XIb73ZMX
  7mK1XUE6Hb82758600Z0LZNX1JNZRr6SaI44bP5bGhAXIb73ZMX7mK1eMFXUE6Hb82758600Z0LbFXTZNX1GNY04gUaI45bG
  hAXIb73ZMX7mK1XUE6Hb82758600Z0LZNX1JNZRr6SaI44bP5bGhBXIb73ZMX7mK1eMFXUE6Hb82758600Z0LbFXTZNX1GNY
  04gUaI45bGhBXIb73ZMX7mK1XUE6Hb82758600Z0LZNX1N4g1r7YUr8MhC4lJX85g0lLZ6lMZ7lNY3oIX7lOX4lPFlQTXUE6
  H002OlRYSv1ZAlSXNv2d6lTZBlUZ83uQdS-5iL003uRdS-8iL00N4g1r7YUr8MhC4lJX85g0lLZ6lMZ7lNY3oJX7lOX4lPFl
  QTXUE6H002OlRYSv1ZAlSXNv2d6lTZBlUZ83k4dS-Hf1003xAdSXYGf1003xBdSXYHf1003xCdSXYIf1003xDdSXYJf100Dh
  VeGaI44bP5bGh9XIb73ZMX7i0eHXUE6Hb8200ZNX1DhFeGaI44bP5bGh9XIb73ZMX7hGeHXUE6Hb8200ZNX1M4g1r7YUr8Mj
  H4lJX8lLZ6lMZ7lNY35iMlOX4lPFlQThUE6H002OlRYSv1ZAlSXNv2d6lTZBlUZ8DhVeGaI44bP5bGhAXIb73ZMX7i0eHXUE
  6Hb8200ZNX1DhFeGaI44bP5bGhAXIb73ZMX7hGeHXUE6Hb8200ZNX1M4g1Xg0YUXg1MjH4pDX8pEZ6pFZ7pGY35iMpHX4pIF
  pJThUE6H002OpKYSXnUZApLXNXnVd6pMZBpNZ8DhVeGaI44bP5bGhBXIb73ZMX7i0eHXUE6Hb8200ZNX1DhFeGaI44bP5bGh
  BXIb73ZMX7hGeHXUE6Hb8200ZNX1DkU7kVZI4ZFjG4eVb9ZG35b6bGTXQE6HZH200gHX1DkU7kVZI4ZFYC4k2b9ZG35b6bGT
  XQE6HZH200XXEX1B-I7-JZI4ZFiP45iNZG3bGTbRE6HZH200B-I7-JZI4ZFYC45iNZG3bGTbRE6HZH200CXYK7XYLZI4ZFhC
  45cHZG3oIX7-GTXUE6HZH200BXYK7XYLZI4ZFhC45iOZG3xETXUE6HZH200DXg27Xg3ZI4ZFqV4f0ZSZG35b6bGTiOE6HZH2
  00gHX1D-I7-JZI4ZFiP4wLbHZG3k2X75b6bGTbRE6HZH200BXYK7XYLZI4ZFYC45iOZG3xETXUE6HZH200CXYK7XYLZI4ZFh
  C45cHZG3oJX7Xo0TXUE6HZH200BXo17Xo2ZI4g2wK45cHZG3xEToKE6HZH200BXo17Xo2ZI4g2YC45cHZG3xEToKE6HZH200
  D-I7-JZI4iPiP45n6ZG3oLa0s3b5bGTbRE6HZH200ExF7xGZI4ZFs44eVRZG3s5X75b6f0XRbGTeLE6HZH200BXg27Xg3ZI4
  ZFwM45iQZG3bGTiOE6HZH200BXg27Xg3ZI4ZFYC45iQZG3bGTiOE6HZH200BXo37Xo4ZI4iRwN45iSZG3bGToNE6HZH200BX
  o37Xo4ZI4iRYC45iSZG3bGToNE6HZH200C-I7-JZI4ZFoM4f0bHZG35b6bGTbRE6HZH2005YmDY7YmEY6YmFn7Xo5iT00B-K
  7-LZI4ZFjH4ZG35f2-GThUE6HZH2004lHg3lIg400YmGYJ4nMg3p4g400Xf5YJCxF7xGZI4ZFlF4ZG3s5X75g5bGTeLE6HZH
  200CxF7xGZI4ZFlF4ZG3XXFX75g5bGTeLE6HZH200DxF7xGZI4ZFs44eVRZG35b6f0XRbGTeLE6HZH200B-K7-LZI4ZFjH4Z
  G35f2xEThUE6HZH200B-K7-LZI4ZFYC4ZG35f2xEThUE6HZH200B-K7-LZI4ZFjH4ZG35f2Xo0ThUE6HZH200B-K7-LZI4ZF
  jH4ZG35f2YmHThUE6HZH2003lHg3lIg4003uSg3uTg4003-6g6-7Y6003-9g6-AY6003lHg6lIY6004nMiUp4Y600YmIYJ3u
  Sg6uTY6004lHiUlIY600YmJYJBXo67Xo7ZI4ZFwO4ZG35iVbGToOE6HZH200BxF7xGZI4ZFlF4ZG35g5bGTeLE6HZH200BXo
  67Xo7ZI4ZFYC4ZG35iVbGToOE6HZH200BxF7xGZI4ZFYC4ZG35g5bGTeLE6HZH200BXo87Xo9ZI4g2wP4ZG35b6bGToPE6HZ
  H200BXo87Xo9ZI4g2YC4ZG35b6bGToPE6HZH200CkU7kVZI4ZFYC4ZG3k2X75b6bGTXQE6HZH200DkU7kVZI4iPYC4ZG3oLa
  0s3b55b6bGTXQE6HZH200BkU7kVZI4ZFXXG4ZG35b6bGTXQE6HZH2004YmKY7YmLY6Xo5iT005kTgVmJY6iTBYmM9005kTgV
  mJY6iTBYmN900BkU7kVZI4ZFXXN4ZG35b6bGTXQE6HZH200BkU7kVZI4ZFXXO4ZG35b6bGTXQE6HZH200BkU7kVZI4ZFXXP4
  ZG35b6bGTXQE6HZH200BkU7kVZI4ZFXXQ4ZG35b6bGTXQE6HZH200BkU7kVZI4ZFXXR4ZG35b6bGTXQE6HZH200BkU7kVZI4
  ZFYC4ZG35b6bGTXQE6HZH200BkU7kVZI4ZFXXS4ZG35b6bGTXQE6HZH200BkU7kVZI4ZFXXT4ZG35b6bGTXQE6HZH200BkU7
  kVZI4ZFXXU4ZG35b6bGTXQE6HZH200BkU7kVZI4ZFXXV4ZG35b6bGTXQE6HZH2003YmOn8YmPY600Vk57Y1SXRMYGBYmQRYP
  YEXOY3YH3YI1YmRXRiQJk6YBcVCd0Aa5DF2XMYH758600YJKYKNYQY5YLYPiRXJd1X1d2XNd3YFcMYGXLY8XNYC4XoAY7YmS
  n9YmTj0004z5Y7Xn7Y600Xf6YJ4YmUnAYmVY6Yn0Z2003Yn1Y7Yn2h0004z8Y7Xn8Y600Xf7YJ4zBY7Xn9Y600Xf8YJ4zEY7
  XnAY600Xf9YJ4zHY7XnBY600XfAYJ4zJY7XnCY600XfBYJ4zMY7XnDY600XfCYJ4zPY7XnEY600XfDYJ4zSY7XnFY600XfEY
  J4zUY7XnGY600XfFYJ4-0Y7XnHY600XfGYJ4-3Y7XnIY600XfHYJ3Yn3Y7Yn4h0003Yn5Y7Yn6h0004kTgVmJY6iTB003r4Y
  7XYDj1003r5Y7XYEj1003XYMj2XYNY6003XYOj2XYPY600Vk57Y1SXRMYGBYn7RYPYEXOY3YH3YI1Yn8XRiQJk6YBcVCd0Aa
  5DF2XMYH758600YJKYKNYQY5YLYPiRXJd1X1d2XNd3YFcMYGXLY8XNYCVk57Y1SXRMYGBYn9RYPYEXOY3YH3YI1YnAXRiQJk
  6YBcVCd0Aa5DF2XMYH758600YJKYKNYQY5YLYPiRXJd1X1d2XNd3YFcMYGXLY8XNYCVk57Y1SXRMYGBYnBRYPYEXOY3YH3YI
  1YnCXRiQJk6YBcVCd0Aa5DF2XMYH758600YJKYKNYQY5YLYPiRXJd1X1d2XNd3YFcMYGXLY8XNYCVk57Y1SXRMYGBYnDRYPY
  EXOY3YH3YI1YnEXRiQJk6YBcVCd0Aa5DF2XMYH758600YJKYKNYQY5YLYPiRXJd1X1d2XNd3YFcMYGXLY8XNYC3YnFY7YnGY
  6003z2Y7Xn6Y6003XoBY7YnHY6003YnIY7YnJY6003YnKY7YnLY6003YnMY7YnNY6003YnOY7YnPY6003XoCY7YnQY6003Xo
  DY7YnRY6003YnSY7YnTY6003XoEY7YnUY6003XoFY7YnVY6003Yo0Y7Yo1Y6003Yo2Y7Yo3Y6003Yo4Y7Yo5Y6003Yo6Y7Yo
  7Y6003XoGY7Yo8Y6003XoHY7Yo9Y6003YoAY7YoBY6003YoCY7YoDY6003YoEY7YoFY6003YoGY7YoHY6003YoIY7YoJY600
  3YoKY7YoLY6003YoMY7YoNY6003YoOY7YoPY6003XoIY7YoQY6003XoJY7YoRY6003XoKY7YoSY6003XoLY7YoTY6003XoMY
  7YoUY6003XoNY7YoVY6003XoOY7Yp0Y6003Yp1Y7Yp2Y6003Yp3Y7Yp4Y6003Yp5Y7Yp6Y6003Yp7Y7Yp8Y6003XoPY7Yp9Y
  6003XoQY7YpAY6003XoRY7YpBY6003YpCY7YpDY6003YpEY7YpFY6003YpGY7YpHY6003YpIY7YpJY6003YpKY7YpLY6003Y
  pMY7YpNY6003XoSY7YpOY600Uk57Y1SXRMYGBYPYEXOY3YH3YI1XoTXRiQJk6YBcVCd0Aa5DF2XMYH758600YJKYKNYQY5YL
  YPiRXJd1X1d2XNd3YFcMYGXLY8XNYC3XoUY7YpPY6003XoVY7YpQY6003Xp0Y7YpRY6003Xp1Y7YpSY6003Xp2Y7YpTY6003
  Xp3Y7YpUY6003Xp4Y7YpVY6003Xp5Y7Yq0Y6003Yq1Y7Yq2Y6003Yq3Y7Yq4Y6003Yq5Y7Yq6Y6003Xp6Y7Yq7Y6003Yq8Y7
  Yq9Y6003YqAY7YqBY6003YqCY7YqDY6003YqEY7YqFY6003YqGY7YqHY6003YqIY7YqJY6003Xp7Y7YqKY6003Xp8Y7YqLY6
  00Uk57Y1SXRMYGBYPYEXOY3YH3YI1YqMXRiQJk6YBcVCd0Aa5DF2XMYH758600YJKYKNYQY5YLYPiRXJd1X1d2XNd3YFcMYG
  XLY8XNYC3Xp9Y7YqNY6003XpAY7YqOY6003XpBY7YqPY6003XpCY7YqQY6003XpDY7YqRY6003XpEY7YqSY6003YqTY7YqUY
  6003XpFY7YqVY6003XpGY7Yr0Y6003Yr1Y7Yr2Y6003Yr3Y7Yr4Y6003Yr5Y7Yr6Y6003XpHY7Yr7Y6003XpIY7Yr8Y6003X
  pJY7Yr9Y6003XpKY7YrAY6003XpLY7YrBY6003XpMY7YrCY6003XpNY7YrDY6003YrEY7YrFY6003YrGY7YrHY6003XpOY7Y
  rIY6003XpPY7YrJY6003YrKY7YrLY6003YrMY7YrNY6003YrOY7YrPY6003XpQY7YrQY6003XpRY7YrRY6003XpSY7YrSY60
  03XpTY7YrTY6003YrUY7YrVY6003XpUY7Ys0Y6003Ys1Y7Ys2Y6003Ys3Y7Ys4Y6003Ys5Y7Ys6Y6003Ys7Y7Ys8Y6003z3Y
  7XYBY6003z4Y7XYCY6003-6Y7-7Y6003-9Y7-AY600Uk57Y1SXRMYGBYPYEXOY3YH3YI1XpVXRiQJk6YBcVCd0Aa5DF2XMYH
  758600YJKYKNYQY5YLYPiRXJd1X1d2XNd3YFcMYGXLY8XNYCUk57Y1SXRMYGBYPYEXOY3YH3YI1Ys9XRiQJk6YBcVCd0Aa5D
  F2XMYH758600YJKYKNYQY5YLYPiRXJd1X1d2XNd3YFcMYGXLY8XNYCUk57Y1SXRMYGBYPYEXOY3YH3YI1Xq0XRiQJk6YBcVC
  d0Aa5DF2XMYH758600YJKYKNYQY5YLYPiRXJd1X1d2XNd3YFcMYGXLY8XNYCUk57Y1SXRMYGBYPYEXOY3YH3YI1YsAXRiQJk
  6YBcVCd0Aa5DF2XMYH758600YJKYKNYQY5YLYPiRXJd1X1d2XNd3YFcMYGXLY8XNYCUk57Y1SXRMYGBYPYEXOY3YH3YI1Xq1
  XRiQJk6YBcVCd0Aa5DF2XMYH758600YJKYKNYQY5YLYPiRXJd1X1d2XNd3YFcMYGXLY8XNYCUk57Y1SXRMYGBYPYEXOY3YH3
  YI1YsBXRiQJk6YBcVCd0Aa5DF2XMYH758600YJKYKNYQY5YLYPiRXJd1X1d2XNd3YFcMYGXLY8XNYCUk57Y1SXRMYGBYPYEX
  OY3YH3YI1Xq2XRiQJk6YBcVCd0Aa5DF2XMYH758600YJKYKNYQY5YLYPiRXJd1X1d2XNd3YFcMYGXLY8XNYCUk57Y1SXRMYG
  BYPYEXOY3YH3YI1YsCXRiQJk6YBcVCd0Aa5DF2XMYH758600YJKYKNYQY5YLYPiRXJd1X1d2XNd3YFcMYGXLY8XNYCTk57Y1
  SXRMYGBYPYEXOY3YH3YI1iQJk6YBcVCd0Aa5DF2XMYH758600YJKYKNYQY5YLYPiRXJd1X1d2XNd3YFcMYGXLY8XNYCTYsD7
  Y1SXRMYGBYPYEXOY3YH3YI1aKJbBCbCAa5DF2XMYH758600YJKYKNYsEY5YLYPaLXJbDX1YEXNYsFdTYFYFZ6YGXLY8XNYC3
  YsGdUYsHdV003YsIdUYsJdV003YsKdUYsLdV003YsMdUYsNdV003YsOdUYsPdV00TYsQ7Xg4SXRMXg5BXg6YEXg7Y3Xg83Xg
  91Xq3JXgACXgBAXgCDF2XgDYHXgE5XgF600XgGKXgHNYsRY5XgIYPXq4XJXgJX1Xq5XNYsSdTXq6YFXgKYGXgLY8XgMYC3XY
  NdUXYMdV00TYsT7XYQSXRMXYRBXYSYEXgNY3XYT3XYU1XgOJXYVCXZ0AXZ1DF2XZ2YHXS5XT600XZ3KXZ4NYsUY5XZ5YPXgP
  XJXZ6X1XgQXNYsVdTXgRYFXZ7YGXZ8Y8XZ9YC3XYPdUXYOdV00TYt07XXHSXRMuPBXY5YEyPY3XY63XY71Xf2JXXICXXJAXg
  SDF2ySYHO5P600XY8KXY9NYt1Y5XYAYPXf4XJXXKX1XXLXNYt2dTXXMYFyQYGyRY8s8YCTYt37XZASXRMXZBBXZCYEXgTY3X
  ZD3XZE1XgUJXZFCXZGAXZHDF2XZIYHD5E600XZJKXZKNYt4Y5XZLYPXgVXJXZMX1Xh0XNYt5dTXh1YFXZNYGXZOY8XZPYCTY
  t67Y1SXRMXh2BXh3YEXOY3YH3YI1Xq7JXh4CXh5Aa5DF2XMYHm15m2600YJKYKNYt7Y5YLYPXq8XJXh6X1Xq9XNYt8dTXqAY
  FXh7YGXLY8Xh8YCTYt97Y1SXRMYGBYPYEXOY3YH3YI1iQJcVCd0Aa5DF2XMYH758600YJKYKNYtAY5YLYPiRXJd1X1d2XNYt
  BdTd3YFcMYGXLY8XNYCSYtC7Y1SXRMYGBYPYEYtDY3YH3YI1aKJbBCbCAa5DF2XMYH758600YJKYKNYQY5YLYPaLXJbDX1YE
  XNYFYFZ6YGXLY8XNYCTbL7Y1SXRMYGBYPYEXOY3YH3YI1aKJbBCbCAa5DF2XqBa4XMYH758600YJKYKNYQY5YLYPaLXJbDX1
  YEXNYFYFZ6YGXLY8XNYCTbL7Y1SXRMYGBYPYEXOY3YH3YI1YtEXRaKJbBCbCAa5DF2XMYH758600YJKYKNYQY5YLYPaLXJbD
  X1YEXNYFYFZ6YGXLY8XNYCTbL7Y1SXRMYGBYPYEXOY3YH3YI1aKJbBCbCAa5DF2YtFa4XMYH758600YJKYKNYQY5YLYPaLXJ
  bDX1YEXNYFYFZ6YGXLY8XNYC3-Mh1v3h2003-Nh1v4h2003-Oh1v5h200TbL7Y1SXRMYGBYPYEXOY3YH3YI1aKJbBCbCAa5D
  F2XqCa4XMYH758600YJKYKNYQY5YLYPaLXJbDX1YEXNYFYFZ6YGXLY8XNYCTbL7Y1SXRMYGBYPYEXOY3YH3YI1YtGXRaKJbB
  CbCAa5DF2XMYH758600YJKYKNYQY5YLYPaLXJbDX1YEXNYFYFZ6YGXLY8XNYCTbL7Y1SXRMYGBYPYEXOY3YH3YI1aKJbBCbC
  Aa5DF2YtHa4XMYH758600YJKYKNYQY5YLYPaLXJbDX1YEXNYFYFZ6YGXLY8XNYCTbL7Y1SXRMYGBYPYEXOY3YH3YI1aKJbBC
  bCAa5DF2XqDa4XMYH758600YJKYKNYQY5YLYPaLXJbDX1YEXNYFYFZ6YGXLY8XNYCTbL7Y1SXRMYGBYPYEXOY3YH3YI1YtIX
  RaKJbBCbCAa5DF2XMYH758600YJKYKNYQY5YLYPaLXJbDX1YEXNYFYFZ6YGXLY8XNYCTbL7Y1SXRMYGBYPYEXOY3YH3YI1aK
  JbBCbCAa5DF2YtJa4XMYH758600YJKYKNYQY5YLYPaLXJbDX1YEXNYFYFZ6YGXLY8XNYCTbL7Y1SXRMYGBYPYEXOY3YH3YI1
  aKJbBCbCAa5DF2XqEa4XMYH758600YJKYKNYQY5YLYPaLXJbDX1YEXNYFYFZ6YGXLY8XNYCTbL7Y1SXRMYGBYPYEXOY3YH3Y
  I1YtKXRaKJbBCbCAa5DF2XMYH758600YJKYKNYQY5YLYPaLXJbDX1YEXNYFYFZ6YGXLY8XNYCTbL7Y1SXRMYGBYPYEXOY3YH
  3YI1aKJbBCbCAa5DF2YtLa4XMYH758600YJKYKNYQY5YLYPaLXJbDX1YEXNYFYFZ6YGXLY8XNYCTbL7Y1SXRMYGBYPYEXOY3
  YH3YI1aKJbBCbCAa5DF2XqFa4XMYH758600YJKYKNYQY5YLYPaLXJbDX1YEXNYFYFZ6YGXLY8XNYCTbL7Y1SXRMYGBYPYEXO
  Y3YH3YI1YtMXRaKJbBCbCAa5DF2XMYH758600YJKYKNYQY5YLYPaLXJbDX1YEXNYFYFZ6YGXLY8XNYCTbL7Y1SXRMYGBYPYE
  XOY3YH3YI1aKJbBCbCAa5DF2YtNa4XMYH758600YJKYKNYQY5YLYPaLXJbDX1YEXNYFYFZ6YGXLY8XNYCTbL7Y1SXRMYGBYP
  YEXOY3YH3YI1aKJbBCbCAa5DF2XqGa4XMYH758600YJKYKNYQY5YLYPaLXJbDX1YEXNYFYFZ6YGXLY8XNYCTbL7Y1SXRMYGB
  YPYEXOY3YH3YI1aKJbBCbCAa5DF2YtOa4XMYH758600YJKYKNYQY5YLYPaLXJbDX1YEXNYFYFZ6YGXLY8XNYCSbL7Y1SXRMY
  GBYPYEXOY3YH3YI1aKJbBCbCAa5DF2XMYH758600YJKYKNYQY5YLYPaLXJbDX1YEXNYFYFZ6YGXLY8XNYCSXh97XYQSXRMXY
  RBXYSYEYtPY3XYT3XYU1XgOJXYVCXZ0AXZ1DF2XZ2YHXS5XT600XZ3KXZ4NXhAY5XZ5YPXgPXJXZ6X1XgQXNXgRYFXZ7YGXZ
  8Y8XZ9YCSXh97XYQSXRMXYRBXYSYEXgNY3XYT3XYU1XgOJXYVCXZ0AXZ1DF2XZ2YHXS5XT600XZ3KXZ4NXhAY5XZ5YPXgPXJ
  XZ6X1XgQXNXgRYFXZ7YGXZ8Y8XZ9YCSXf17XXHSXRMuPBXY5YEyPY3XY63XY71Xf2JXXICXXJAXgSDF2ySYHO5P600XY8KXY
  9NXf3Y5XYAYPXf4XJXXKX1XXLXNXXMYFyQYGyRY8s8YCSbL7Y1SXRMYGBYPYEXOY3YH3YI1iQJcVCd0Aa5DF2XMYH758600Y
  JKYKNYQY5YLYPiRXJd1X1d2XNd3YFcMYGXLY8XNYCSXqH7Y1SXRMXh2BXh3YEXOY3YH3YI1Xq7JXh4CXh5Aa5DF2XMYHm15m
  2600YJKYKNYQY5YLYPXq8XJXh6X1Xq9XNXqAYFXh7YGXLY8Xh8YCSXh97XYQSXRMXYRBXYSYEXgNY3XYT3XYU1aKJXYVCXZ0
  AXZ1DF2XZ2YHXS5XT600XZ3KXZ4NXhAY5XZ5YPaLXJXZ6X1YEXNYFYFXZ7YGXZ8Y8XZ9YCSXqI7Xg4SXRMXg5BXg6YEXg7Y3
  Xg83Xg91Xq3JXgACXgBAXgCDF2XgDYHXgE5XgF600XgGKXgHNXqJY5XgIYPXq4XJXgJX1Xq5XNXq6YFXgKYGXgLY8XgMYCSX
  f17XXHSXRMuPBXY5YEyPY3XY63XY71aKJXXICXXJAXgSDF2ySYHO5P600XY8KXY9NXf3Y5XYAYPaLXJXXKX1YEXNYFYFyQYG
  yRY8s8YCSXhB7XZASXRMXZBBXZCYEXgTY3XZD3XZE1XgUJXZFCXZGAXZHDF2XZIYHD5E600XZJKXZKNXhCY5XZLYPXgVXJXZ
  MX1Xh0XNXh1YFXZNYGXZOY8XZPYCSXhB7XZASXRMXZBBXZCYEXgTY3XZD3XZE1aKJXZFCXZGAXZHDF2XZIYHD5E600XZJKXZ
  KNXhCY5XZLYPaLXJXZMX1YEXNYFYFXZNYGXZOY8XZPYCSXqI7Xg4SXRMXg5BXg6YEXg7Y3Xg83Xg91aKJXgACXgBAXgCDF2X
  gDYHXgE5XgF600XgGKXgHNXqJY5XgIYPaLXJXgJX1YEXNYFYFXgKYGXgLY8XgMYCSXqH7Y1SXRMXh2BXh3YEXOY3YH3YI1aK
  JXh4CXh5Aa5DF2XMYHm15m2600YJKYKNYQY5YLYPaLXJXh6X1YEXNYFYFXh7YGXLY8Xh8YCSXhB7XZASXRMXZBBXZCYEYtQY
  3XZD3XZE1XgUJXZFCXZGAXZHDF2XZIYHD5E600XZJKXZKNXhCY5XZLYPXgVXJXZMX1Xh0XNXh1YFXZNYGXZOY8XZPYCSbL7Y
  1SXRMYGBYPYEXOY3YH3YI1aKJcVCd0Aa5DF2XMYH758600YJKYKNYQY5YLYPaLXJd1X1YEXNYFYFcMYGXLY8XNYCQXqKa1Xq
  LYRmASf4BnNRYtRXIXP3mLYImB1XqMFXqNJbKYBZBDF2O5P600mCL2OXqOYMXqPXJXqQXTXqRYKXqSY9aNXNmMcNQXZQa1XZ
  RYRmASf4BYtSRYtTXIXP3XqTYImB1XZSFXZTJbKYBZBDF2O5P600mCL2OXZUYMXZVXJXa0XTXa1YKXa2Y9aNXNXqUcNQXqVa
  1Xr0YRmASf4BnNRYtUXIXP3mLYImB1Xr1FXr2JbKYBZBDF2O5P600mCL2OXr3YMXr4XJXr5XTXr6YKXr7Y9aNXNmMcNQXhDa
  1XhEYRmASf4BnNRYtVXIXP3mLYImB1XhFFXhGJbKYBZBDF2O5P600mCL2OXhHYMXhIXJXhJXTXhKYKXhLY9aNXNmMcNQXZQa
  1XZRYRmASf4BnNRXr8XIXP3mLYImB1XZSFXZTJbKYBZBDF2O5P600mCL2OXZUYMXZVXJXa0XTXa1YKXa2Y9aNXNmMcNQXZQa
  1XZRYRmASf4BnNRYu0XIXP3mLYImB1XZSFXZTJbKYBZBDF2O5P600mCL2OXZUYMXZVXJXa0XTXa1YKXa2Y9aNXNmMcNQXZQa
  1XZRYRmASf4BnNRXr9XIXP3mLYImB1XZSFXZTJbKYBZBDF2O5P600mCL2OXZUYMXZVXJXa0XTXa1YKXa2Y9aNXNmMcNQXqKa
  1XqLYRmASf4BnNRYu1XIXP3mLYImB1XqMFXqNJbKYBZBDF2O5P600mCL2OXqOYMXqPXJXqQXTXqRYKXqSY9aNXNmMcNQXqVa
  1Xr0YRmASf4BnNRYu2XIXP3mLYImB1Xr1FXr2JbKYBZBDF2O5P600mCL2OXr3YMXr4XJXr5XTXr6YKXr7Y9aNXNmMcNQYu3a
  1Yu4YRmASf4BnNRXr9XIXP3mLYImB1Yu5FYu6JbKYBZBDF2O5P600mCL2OYu7YMYu8XJYu9XTYuAYKYuBY9aNXNmMcNQXhDa
  1XhEYRmASf4BnNRYuCXIXP3mLYImB1XhFFXhGJbKYBZBDF2O5P600mCL2OXhHYMXhIXJXhJXTXhKYKXhLY9aNXNmMcNQXhDa
  1XhEYRmASf4BnNRXr8XIXP3mLYImB1XhFFXhGJbKYBZBDF2O5P600mCL2OXhHYMXhIXJXhJXTXhKYKXhLY9aNXNmMcNE-P74
  ZFaI45cHh9XIb73ZMX7XUE6Hb82-Q5-R600ZNX1EsF74ZFaI4m3B5h3h9XIb73ZMX7mD1XUE6Hb8200ZNX1ExH74ZFaI45cH
  h9XIb73ZMX7XUE6Hb82758600ZNX13-Sh4xIh5003-Th4xJh5003-Uh4xKh500E-P74ZFaI45cHhAXIb73ZMX7XUE6Hb82-Q
  5-R600ZNX1EsF74ZFaI4m3B5h3hAXIb73ZMX7mD1XUE6Hb8200ZNX1ExH74ZFaI45cHhAXIb73ZMX7XUE6Hb82758600ZNX1
  E-P74ZFaI45cHhBXIb73ZMX7XUE6Hb82-Q5-R600ZNX1EsF74ZFaI4m3B5h3hBXIb73ZMX7mD1XUE6Hb8200ZNX1ExH74ZFa
  I45cHhBXIb73ZMX7XUE6Hb82758600ZNX1BaO74ZJjG4eVb95b7XQE6HD5E600gHX1BaO74ZJYC4k2b95b7XQE6HD5E600XX
  EX1NYuDa1YuEYRmASf4BXrAYNXP3mB1YuFFYuGJbKYBZBDF2O5P600mCL2OYuHYMYuIXJYuJXTYuKYKYuLY9aNXN9aO74ZJi
  P45j3bRE6HD5E6009aO74ZJYC45j3bRE6HD5E600A-P74ZJhC45dHoIX7XUE6H-Q5-R600AsF74ZJhC4m3B5j4oIX7mD1XUE
  6H00AxH74ZJhC45dHoIX7XUE6H7586009Xa374ZJhC45j5XUE6HXS5XT600BaO74ZJqV4f0ZS5b7iOE6HD5E600gHX1BaO74
  ZJiP4wLbH5b7k2X7bRE6HD5E6009aO74ZJYC45j5XUE6HD5E600AXa374ZJhC45dHoJX7XUE6HXS5XT600AsF74ZJhC4m3B5
  j4oJX7mD1XUE6H00AxH74ZJhC45dHoJX7XUE6H7586009Xa374g7wK45dHoKE6HXS5XT6009aO74g7YC45dHoKE6HD5E600C
  xL74ZFaI45cHh9XIb73ZMX7XUE6Hb8200ZNX1BaO74g8iP45nBoLa0s3b5bRE6HD5E600BYuM74g8iP4m3B5nCoLa0s3b5mD
  1bRE6H00CaO74ZJs44eVR5b7s5X7f0XReLE6HD5E6004r9d7rAj600mNXQ4rBd7rCj600mOXQ3XrBd7XrCd8003r9d7rAd80
  03rBd7rCd8003XrDd7XrEd8003XrFd7XrGd8003XrHd7XrId8003XrJd7XrKd8009aO74ZJwM45j7iOE6HD5E600CxL74ZFa
  I45cHhAXIb73ZMX7XUE6Hb8200ZNX1CxL74ZFaI45cHhBXIb73ZMX7XUE6Hb8200ZNX19aO74ZJYC45j7iOE6HD5E6009aO7
  4j8wN45j9oNE6HD5E6009aO74j8YC45j9oNE6HD5E600AaO74ZJoM4f0bH5b7bRE6HD5E600BKeIXhM4LeJh9XIXhN3ZMX7r
  DEX9HXhO200ZNX1B4eIaI45eJh9XIb73ZMX7XUE6Hb8200ZNX19sF74ZJjH4m3B5nDmD1hUE6H009xH74ZJjH45e0hUE6H75
  8600AaO74ZJlF45g9s5X7eLE6HD5E600AaO74ZJlF45g9XXFX7eLE6HD5E6009-P74ZJjH45e0hUE6H-Q5-R600BaO74ZJs4
  4eVR5b7f0XReLE6HD5E6003XYNb4XYMd8003XYPb4XYOd800CKcIiU4Lf3c5h6sG3Xa49m4EXa5GX9Hd7Z5YuN200BKeIXhM
  4LeJhAXIXhN3ZMX7rDEX9HXhO200ZNX1B4eIaI45eJhAXIb73ZMX7XUE6Hb8200ZNX19YuO74ZJjH45e0hUE6HO5P600BKeI
  XhM4LeJhBXIXhN3ZMX7rDEX9HXhO200ZNX1B4eIaI45eJhBXIb73ZMX7XUE6Hb8200ZNX19Xa374ZJjH45e0hUE6HXS5XT60
  09aO74ZJYC45e0hUE6HD5E600CKbAiU4LnEc5c3eN3hH9m4EhIGX9Hd7Z0l02005KYDdP4LnFX9H006Xa6e1Xa7nGeN3YuP9
  f5200EKcIv64Le2XhPb2nOX7jL1k79m4EX9HjMZ5k8200YuQX1c6XQCKbAsH4LnHc5c3eN3hH9rDEhIGX9Hd7Z0l0200CKcI
  v64Le2XhPYNc6cSjL1YuR9m4EX9HjMZ5YuS200BKbAiU4LnIjLb0k79m4EX9HjMZ0k8200c6XQCKbAxM4LnJc5c3eN3hH9Xa
  8EhIGX9Hd7Z0l02009aO74ZJwO45jAoOE6HD5E6009aO74ZJlF45g9eLE6HD5E6009aO74ZJYC45jAoOE6HD5E6009aO74ZJ
  YC45g9eLE6HD5E6009aO74g7wP45b7oPE6HD5E6009aO74g7YC45b7oPE6HD5E600AaO74ZJYC45b7k2X7XQE6HD5E600BaO
  74g8YC45b7oLa0s3b5XQE6HD5E6009aO74ZJXXG45b7XQE6HD5E6004XhQe1XhRjB00XrLOEKcI-V4Le2l1cJYuTYAjL1k79
  iDEX9HjMZ5k8200pOX1c6XQBKbAsH4LnKjLb0k79rDEX9HjMZ0k8200c6XQBYuU74g8YC4m3B5nLoLa0s3b5YuV1XQE6H003
  XrMnMXrNh70084YDjG45Z9eVb9XQE6H00gHX18KYD-V4LZ9l1b9iDEX9H00pOX184YDYC45Z9k2b9XQE6H00XXEX18KYDdP4
  LZ9nPb9iDEX9H00XhSX1EKcI_04Le2mPcJXhPYAjL1k79v7EX9HjMZ5k8200pOX1c6XQCKbAv84LnNc5c3eN3hH9v7EhIGX9
  Hd7Z0l020094e3oM45e4bSjCjN1bRE6HjOZ500CKcIiU4Lf3c5gAeN3hH9m4EhIGX9Hd7h8l02009aO74ZJXXN45b7XQE6HD
  5E600BKbAxM4LnOjLb0k79Xa8EX9HjMZ0k8200c6XQ94cTiP45nPjNb0bRE6HjOZ000bSXQCKbAxN4LnQc5c3eN3hH9Xa9Eh
  IGX9Hd7Z0l02009aO74ZJXXO45b7XQE6HD5E6009aO74ZJXXP45b7XQE6HD5E600CKbAxO4LnRc5c3eN3hH9XaAEhIGX9Hd7
  Z0l02009aO74ZJXXQ45b7XQE6HD5E6009aO74ZJXXR45b7XQE6HD5E6009aO74ZJYC45b7XQE6HD5E6009aO74ZJXXS45b7X
  QE6HD5E6009aO74ZJXXT45b7XQE6HD5E6009aO74ZJXXU45b7XQE6HD5E600CKcIv84LnSeN3c5jDhH9v7EhIGX9Hd7Z5l02
  009aO74ZJXXV45b7XQE6HD5E6008xL74ZJhC45dHoIX7XUE6H005XhQnTXhRjBYv0X400XrLOB4e3jG45e4eVcJbSdIjN1XQ
  E6HjOZ500gHX13XrOe1XrPh70094cThC45nUjNb0XUE6HjOZ000bSXQCKcIdP4Le2c6c4nPX7jL1k79iDEX9HjMZ5k82003X
  rQe1XrRh7007KYD-V4LZ9l1b9X9H00pOX17KYDdP4LZ9nPb9X9H00XhSX1B4e3qV45e4f0cJbSdIjN1iOE6HjOZ500gHX1BK
  bAv84LnVjLb0k79v7EX9HjMZ0k8200c6XQDKcIiU4Le2Yv1b2nPX7jL1k79m4EX9HjMZ5k8200c6XQ4r9b4rAcP00mNXQ4rB
  b4rCcP00mOXQBKbAxN4Lo0c6a9jL1k79Xa9EX9HjMZ0k82004r9b4rAjEmNcS004rBb4rCjEmOcS008xL74ZJhC45dHoJX7X
  UE6H0094cTwK45o1jNb0oKE6HjOZ000bSXQBKbAxO4Lo2jLb0k79XaAEX9HjMZ0k8200c6XQ64YDiP45f4bRE6H0064YDYC4
  5f4bRE6H00CKbAxP4Lo3c5c3eN3hH9XaBEhIGX9Hd7Z0l0200CKbAsI4Lo4c5c3eN3hH9sJEhIGX9Hd7Z0l0200CKbAxQ4Lo
  5c5c3eN3hH9XaCEhIGX9Hd7Z0l0200CKcIdP4Lf3c5gAeN3hH9iDEhIGX9Hd7Z5l0200CKcIiU4Lo6c5o7eN3hH9m4EhIGX9
  Hd7Z5l02006KYDiU4Lf4m4EX9H006KYDdP4Lf4m4EX9H007KYDsH4LgBoIX7rDEX9H0074YDhC45gBoIX7XUE6H003XrSe1X
  rTh90064YDhC45f5XUE6H006KYDsH4Lf5rDEX9H0084YDqV45Z9f0ZSiOE6H00gHX18KYD_04LZ9mPZSv7EX9H00pOX13Xa6
  e1Xa7h9003XrBb4XrCcP0084YDiP45Z9wLbHk2X7bRE6H003XYNb4XYMcP003r9b4rAcP003rBb4rCcP003XrDb4XrEcP003
  XrFb4XrGcP003XYPb4XYOcP00CKcIdP4Lf3eN3c5jDhH9iDEhIGX9Hd7Z5l0200A4e3YC45e4bSc4k2X7jN1XQE6HjOZ5003
  XrUe1XrVh9003XrHb4XrIcP003XrJb4XrKcP0064YDYC45f5XUE6H0094cTwM45o8jNb0iOE6HjOZ000bSXQB4e3iP45e4Yv
  2b2k2X7jN1bRE6HjOZ500bSXQA4e3oM45e4bSc4jN1bRE6HjOZ500k3X14r9b4rAjFmNc4004rBb4rCjFmOc40094cTjH45o
  9bSa9jN1hUE6HjOZ000BKcIiU4LoAjLeKk79m4EX9HjMZ5k8200c6XQ5KYDdP4LoBX9H006KYDdP4Lf5rDEX9H007KYDsH4L
  gBoJX7rDEX9H0074YDhC45gBoJX7XUE6H0064YDwK45f6oKE6H0064YDYC45f6oKE6H0094cTwN45oCjNb0oNE6HjOZ000bS
  XQCKbAdP4Lf3c5c3eN3hH9iDEhIGX9Hd7Z0l02006KYDdP4Lf6Xa8EX9H005KYDiU4Lf4X9H00BKbAxP4LoDc6a9jL1k79Xa
  BEX9HjMZ0k82006KYDxM4Lf6Xa8EX9H00BKbAsI4LoEc6a9jL1k79sJEX9HjMZ0k8200BKbAxQ4LoFc6a9jL1k79XaCEX9Hj
  MZ0k82005KYDsH4Lf5X9H007KYD_04LZ9mPZSX9H00pOX17xL74ZJjH45e0hUE6H007KYDiU4LZ9XhTbHm4EX9H007KYDiU4
  LZ9XhTbHnPX7X9H0084d9iP45hAoLa0Xs0b5bRE6H008Kd9iU4LhAxRa0sKb5m4EX9H0094YDs445Z9eVRs5X7f0XReLE6H0
  0AKd9XaD4LZ9l1RXhUa0Xs1X7mPXRsJEX9H006KYDv84Lf7v7EX9H0064YDwM45f7iOE6H00BKbAdP4Le2c6a9jL1k79iDEX
  9HjMZ0k82005r9b4rAjG00_1X1mNXQ5rBb4rCjG00_2X1mOXQ94e3iP45oGjNeKbRE6HjOZ500bSXQ4r9b4rAjHmNa9004rB
  b4rCjHmOa90064YDYC45f7iOE6H0064YDwN45f8oNE6H0064YDYC45f8oNE6H0074YDoM45Z9f0bHbRE6H007KYDv64LZ9mP
  bHm4EX9H007Yv374ZJjH45e0hUE6H006KYDdP4Lf7v7EX9H0094cTwO45oHbSa9jN1oOE6HjOZ0005KYDxM4Lf6X9H0094cT
  lF45oIbSa9jN1eLE6HjOZ00094cTwP45oJbSa9jN1oPE6HjOZ0006KYDxO4Lf8XaAEX9H006KYDdP4Lf8XaAEX9H00MX2a1f
  6YRf7SmLdJmMZMXP3bH1f8Ff9JZBDF2O5P600fAL2OfBYMfCXJfDXTaPYKY2Y9aNXN7Kd9iU4LhAxRa0sKb5X9H0074YDlF4
  5dAs5X7eLE6H008Kd9sI4LdAXhUa0Xs1X7sJEX9H0074YDlF45dAXXFX7eLE6H008Kd9sI4LdAXhUa0Yv4X7sJEX9H005KYD
  v84Lf7X9H0084YDs445Z9eVRf0XReLE6H008KYDXaD4LZ9l1RmPXRsJEX9H0094cTYC45e4bSa9jN1XQE6HjOZ0004r9b4rA
  jImNa9004rBb4rCjImOa900MX2a1f6YRf7SYv5dJYv6ZMXP3bH1f8Ff9JZBDF2O5P600fAL2OfBYMfCXJfDXTaPYKY2Y9aNX
  NMX2a1f6YRf7SXqTdJXqUZMXP3bH1f8Ff9JZBDF2O5P600fAL2OfBYMfCXJfDXTaPYKY2Y9aNXNMX2a1f6YRf7SYv7dJYv8Z
  MXP3bH1f8Ff9JZBDF2O5P600fAL2OfBYMfCXJfDXTaPYKY2Y9aNXNMX2a1f6YRf7SYv9dJYvAZMXP3bH1f8Ff9JZBDF2O5P6
  00fAL2OfBYMfCXJfDXTaPYKY2Y9aNXNMX2a1f6YRf7SYvBdJYvCZMXP3bH1f8Ff9JZBDF2O5P600fAL2OfBYMfCXJfDXTaPY
  KY2Y9aNXN64YDjH45f9hUE6H0064YDYC45f9hUE6H006KYDdP4Lf9Xa9EX9H006KYDxN4Lf9Xa9EX9H006KYDv64LZ9mPbHX
  9H005KYDxO4Lf8X9H007KYDXaD4LZ9l1RmPXRX9H0064YDwO45fAoOE6H0064YDlF45dAeLE6H0064YDYC45fAoOE6H0064Y
  DYC45dAeLE6H0064YDwP45fBoPE6H0064YDYC45fBoPE6H005KYDxN4Lf9X9H0074YDYC45Z9k2X7XQE6H0084d9YC45Z9oL
  a0Xs0b5XQE6H008Kd9dP4LZ9xRa0sKb5iDEX9H006KYDxP4LfAXaBEX9H006KYDsI4LdAsJEX9H006KYDdP4LfAXaBEX9H00
  6KYDdP4LdAsJEX9H006KYDxQ4LfBXaCEX9H006KYDdP4LfBXaCEX9H0064YDXXG45Z9XQE6H006KYDXhV4LZ9iDEX9H00LX2
  a1f6YRf7SXs2ZMXP3bH1f8Ff9JZBDF2O5P600fAL2OfBYMfCXJfDXTaPYKY2Y9aNXNLX2a1f6YRf7SXs3ZMXP3bH1f8Ff9JZ
  BDF2O5P600fAL2OfBYMfCXJfDXTaPYKY2Y9aNXNLX2a1f6YRf7SYvDZMXP3bH1f8Ff9JZBDF2O5P600fAL2OfBYMfCXJfDXT
  aPYKY2Y9aNXN64YDXXN45Z9XQE6H006KYDXi04LZ9iDEX9H00LX2a1f6YRf7SXs4ZMXP3bH1f8Ff9JZBDF2O5P600fAL2OfB
  YMfCXJfDXTaPYKY2Y9aNXNLX2a1f6YRf7SXs5ZMXP3bH1f8Ff9JZBDF2O5P600fAL2OfBYMfCXJfDXTaPYKY2Y9aNXNLX2a1
  f6YRf7SYvEZMXP3bH1f8Ff9JZBDF2O5P600fAL2OfBYMfCXJfDXTaPYKY2Y9aNXNLX2a1f6YRf7SXs6ZMXP3bH1f8Ff9JZBD
  F2O5P600fAL2OfBYMfCXJfDXTaPYKY2Y9aNXNLX2a1f6YRf7SXs7ZMXP3bH1f8Ff9JZBDF2O5P600fAL2OfBYMfCXJfDXTaP
  YKY2Y9aNXNLX2a1f6YRf7SYvFZMXP3bH1f8Ff9JZBDF2O5P600fAL2OfBYMfCXJfDXTaPYKY2Y9aNXNLX2a1f6YRf7SXs8ZM
  XP3bH1f8Ff9JZBDF2O5P600fAL2OfBYMfCXJfDXTaPYKY2Y9aNXNLX2a1f6YRf7SXs9ZMXP3bH1f8Ff9JZBDF2O5P600fAL2
  OfBYMfCXJfDXTaPYKY2Y9aNXNLX2a1f6YRf7SYvGZMXP3bH1f8Ff9JZBDF2O5P600fAL2OfBYMfCXJfDXTaPYKY2Y9aNXNLX
  2a1f6YRf7SXsAZMXP3bH1f8Ff9JZBDF2O5P600fAL2OfBYMfCXJfDXTaPYKY2Y9aNXNLX2a1f6YRf7SXsBZMXP3bH1f8Ff9J
  ZBDF2O5P600fAL2OfBYMfCXJfDXTaPYKY2Y9aNXNLX2a1f6YRf7SYvHZMXP3bH1f8Ff9JZBDF2O5P600fAL2OfBYMfCXJfDX
  TaPYKY2Y9aNXNLX2a1f6YRf7SXsCZMXP3bH1f8Ff9JZBDF2O5P600fAL2OfBYMfCXJfDXTaPYKY2Y9aNXNLX2a1f6YRf7SXs
  DZMXP3bH1f8Ff9JZBDF2O5P600fAL2OfBYMfCXJfDXTaPYKY2Y9aNXNLX2a1f6YRf7SYvIZMXP3bH1f8Ff9JZBDF2O5P600f
  AL2OfBYMfCXJfDXTaPYKY2Y9aNXN64YDXXO45Z9XQE6H006KYDXi14LZ9iDEX9H0064YDXXP45Z9XQE6H006KYDXi24LZ9iD
  EX9H0064YDXXQ45Z9XQE6H006KYDXi34LZ9iDEX9H0064YDXXR45Z9XQE6H006KYDXi44LZ9iDEX9H0064YDYC45Z9XQE6H0
  064YDXXS45Z9XQE6H006KYDXi54LZ9iDEX9H0064YDXXT45Z9XQE6H006KYDXi64LZ9iDEX9H0064YDXXU45Z9XQE6H006KY
  DXi74LZ9iDEX9H006KYDdP4LZ9nPX7X9H007Kd9dP4LZ9xRa0sKb5X9H0064YDXXV45Z9XQE6H006KYDXi84LZ9iDEX9H005
  KYDxP4LfAX9H005KYDsI4LdAX9H006KYDdP4LZ9iDEX9H005KYDxQ4LfBX9H005KYDXhV4LZ9X9H005KYDXi04LZ9X9H005K
  YDXi14LZ9X9H005KYDXi24LZ9X9H005KYDXi34LZ9X9H005KYDXi44LZ9X9H005KYDXi54LZ9X9H005KYDXi64LZ9X9H005K
  YDXi74LZ9X9H005KYDXi84LZ9X9H00KX2a1f6YRf7SXP3bH1f8Ff9JZBDF2O5P600fAL2OfBYMfCXJfDXTaPYKY2Y9aNXNKX
  2cOpPSYvJXIYvKYIbH1pQFZBDO5P600pRLnQOpSYMpTXJpUXTpVYSaPYKY2Y9q0XNq1bBKX2cOpPSYvLXI_3YIbH1pQFZBDO
  5P600pRLnQOpSYMpTXJpUXTpVYSaPYKY2Y9q0XNq1bBKYvMcOYvNSYvOXIYvPYIYvQ1YvRFYvSDYvT5YvU600YvVLYw0OYw1
  YMYw2XJYw3XTYw4YSYw5YKYw6Y9Yw7XNYw8bBOv9SvAbFvBYUvCMxS4vDXBpDX8lKBZORrEXIpEZ6pFZ7pGY3BZHpHX4pIFp
  JT002OpKYSsLZApLXNpMZBpNZ8Ov9SvAbFvBYUvCMxS4vDXBpDX8lKBZORrFXIpEZ6pFZ7pGY3BZHpHX4pIFpJT002OpKYSs
  LZApLXNpMZBpNZ8KX2cOpPSYw9XIYwAYIbH1pQFZBDO5P600pRLnQOpSYMpTXJpUXTpVYSaPYKY2Y9q0XNq1bBKX2cOpPSYw
  BXI_3YIbH1pQFZBDO5P600pRLnQOpSYMpTXJpUXTpVYSaPYKY2Y9q0XNq1bBOv9SvAbFvBYUvCMxS4vDXBpDX8lKBZORrGXI
  pEZ6pFZ7pGY3BZHpHX4pIFpJT002OpKYSsLZApLXNpMZBpNZ8KX2cOpPSYwCXIYwDYIbH1pQFZBDO5P600pRLnQOpSYMpTXJ
  pUXTpVYSaPYKY2Y9q0XNq1bBKX2cOpPSYwEXI_3YIbH1pQFZBDO5P600pRLnQOpSYMpTXJpUXTpVYSaPYKY2Y9q0XNq1bBOv
  9SvAbFvBYUvCMxS4vDXBpDX8lKBZORrHXIpEZ6pFZ7pGY3BZHpHX4pIFpJT002OpKYSsLZApLXNpMZBpNZ8KX2cOpPSYwFXI
  YwGYIbH1pQFZBDO5P600pRLnQOpSYMpTXJpUXTpVYSaPYKY2Y9q0XNq1bBKX2cOpPSYwHXI_3YIbH1pQFZBDO5P600pRLnQO
  pSYMpTXJpUXTpVYSaPYKY2Y9q0XNq1bBOv9SvAbFvBYUvCMxS4vDXBpDX8lKBZORrIXIpEZ6pFZ7pGY3BZHpHX4pIFpJT002
  OpKYSsLZApLXNpMZBpNZ8KX2cOpPSYwIXIYwJYIbH1pQFZBDO5P600pRLnQOpSYMpTXJpUXTpVYSaPYKY2Y9q0XNq1bBKX2c
  OpPSYwKXI_3YIbH1pQFZBDO5P600pRLnQOpSYMpTXJpUXTpVYSaPYKY2Y9q0XNq1bBHYwLdBlDSf4BYORYwMXIq21YwNFbKY
  B758600vELYwOYMYwPXJYwQXTYwRYKYwSY99XsEZCXsFoK33A199XsGGvF200VKHYwTdBlDSf4BYORYwUXIq21YwVFbKYB75
  8600vELYx0YMYx1XJYx2XTYx3YKYx4Y9HYx5dBlDSf4BYORYx6XIq21Yx7FbKYB758600vELYx8YMYx9XJYxAXTYxBYKYxCY
  9HYxDdBlDSf4BYORYxEXIq21YxFFbKYB758600vELYxGYMYxHXJYxIXTYxJYKYxKY9HYxLdBlDSf4BYORYxMXIq21YxNFbKY
  B758600vELYxOYMYxPXJYxQXTYxRYKYxSY9HYxTdBlDSf4BYORYxUXIq21YxVFbKYB758600vELYy0YMYy1XJYy2XTYy3YKY
  y4Y93-5e5uQjJ00Mv9SvAbFvBYUvCMYy54vDXBpDX8lKBBaNpEZ6pFZ7pGY3pHX4pIFpJT002OpKYSsLZApLXNpMZBpNZ83-
  8e5uRjJ00Nv9SvAbFvBYUvCMxS4vDXBpDX8lKBrJYNpEZ6pFZ7pGY3BZHpHX4pIFpJT002OpKYSsLZApLXNpMZBpNZ86d7ZC
  c5gC33XsH9vF2006XaEZCxTgC33Yy69vF2006XaFZCxUgC33Yy79vF2006sMZCc6e6XsI9vF200Xi9a5GYy8dBlDSf4BXrAY
  Nq21Yy9FbKYB758600vELYyAYMYyBXJYyCXTYyDYKYyEY97pAIpBoLA199XsGG00VK3-Me5v3YL003-Ne5v4YL003-Oe5v5Y
  L005p4IiC4nMYQ00XsJYJ3k3IbSjK004mEZCi1YLvF2005_4Iq3gC33YyF9003-5e5uQYL005sMZCc6e6XsI9vF2003XaGI_
  5jK003-8e5uRYL004rKIgIYL00Xi9a54mEIi1YL00XsKa54sNImQYL00Xi9a55k9IkAjLmRdI00_6X15k9IkAjLmSdI00_7X
  14pAIpBoM00VK4XaHIXaIjM33004XsLIXsMjM33004XaJIXaKYQ00i1XQ6XaJZ4XaKYQnRCrLA00q4XQ6XsNZ4XsOYQnRCrL
  A00q4XQ5mJIkTjNsOBYyG9005mJIkTjNsOBYyH9004mJIkTe7sOB003-SIxIYL007j7a6iC4iSfCq5b0q6Z000k4XQ7Ka6Lo
  Nc5c3hH9hIGd7Z0007kBa6kC4kDfCq7b0q8Z000l2XQ5Ka6LoOq9c3rMZ0003-TIxJYL003-UIxKYL005mJIkTjOXaLBYyI9
  005mJIkTjOXaLBYyJ9004mJIkToPXaLB003XaMI_8YL003xVIcRYL003rKIgIYL004_9IsPe6YyK9003nSIjPYL004nSIjPj
  PXiA1003mEIi1YL003XaNI_AYL004p4InMYQ00XsJYJ3-HIk4YL004d7Ic5e6XsH9004XaOI_Be6YyL9003XaPI_CYL003_D
  Il2YL003XaQI_EYL004XaRgDvGYLnRC003rMIq9YL003_FImFYL003_GIy0YL006XiBZ4vHYQnRCrLA00q4XQ6XiCZ4_HoQX
  iA1nSZ500jPXQ4XaSIvIYQ00YyMXQ4XaTI_IjPXiA1003_6ImRYL003_JIy1YL003XaUI_KYL003XYGIxAYL003_7ImSYL00
  3_LIsQYL003XaVI_MYL003Xb0I_NYL003Xb1I_OYL003Xb2I_PYL003Xb3I_QYL003Xb4I_RYL003Xb5I_SYL004qAImTe6X
  sP9003_1ImNYL003_2ImOYL004qAImTe6XsQ9003vJImUYL006vJZ4mUYQnRCrLA00q4XQ3Xb6I_TYL003Xb7I_UYL003Xb8
  I_VYL003Xb9IXW0YL003XbAIXW1YL004XbBgDvKYLnRC003XbCIXW2YL003XYHIxBYL003XbDIXW3YL003XbEIXW4YL003Xb
  FIXW5YL003XbGIXW6YL003XbHIXW7YL003XbIIXW8YL003XbJIXW9YL003XbKIXWAYL003XbLIXWBYL003XbMIXWCYL006Xi
  DZ4vLYQnRCrLA00q4XQ3XbNIXWDYL003vMImVYL006vMZ4mVYQnRCrLA00q4XQ3XYIIxCYL003XbOIXWEYL003XbPIXWFYL0
  03XbQIXWGYL003XbRIXWHYL003XbSIXWIYL003XbTIXWJYL003XbUIXWKYL003XYJIxDYL003XbVIXWLYL003Xc0IXWMYL00
  3Xc1IXWNYL003Xc2IXWOYL003Xc3IXWPYL006XiEZ4vNYQnRCrLA00q4XQ3sNImQYL006XiFZ4vOYQnRCrLA00q4XQ6XiGZ4
  vPYQnRCrLA00q4XQ4lIIlHYQ00YyNYJ4KIdP4LYQ009XsEZCXsFoRX33XB1XA9XsRGvQ200Y6KFX2aUiESXJ4ZORrEXIBZHX
  81m5FO5P600m6LsRXJm7XTY2Y93KILYQ003pAIpBYQ003XsSIXsTYQ003qBIqCYQ003k9IkAYQ003XsUIXsVYQ003Xt0In0Y
  Q003Xt1IXt2YQ003Xt3IXiHYQ003XiIIXiJYQ003-7I-6YQ003Xt4IXt5YQ003Xt6IXt7YQ003Xt8IXt9YQ003XtAIXtBYQ0
  03XtCIXtDYQ003XtEIn1YQ003XtFIXtGYQ006Ka6LfCnTb0nUZ000gIXQ3XtHIXtIYQ003XtJIn2YQ003XtKIXiKYQ003XtL
  IXiLYQ003XtMIXiMYQ003z6Iz7YQ003XtNIXtOYQ003-AI-9YQ003XtPIXtQYQ003XtRIn3YQ003XtSIXtTYQ003XtUIn4YQ
  003XtVIn5YQ003Xu0IXu1YQ003Xu2IXu3YQ003Xu4IXu5YQ00FX2aUiESXJ4ZORrFXIBZHX81m5FO5P600m6LsRXJm7XTY2Y
  93Xu6IXu7YQ003Xu8IXiNYQ003Xu9IXiOYQ003z9IzAYQ003zCIzDYQ003zFIzGYQ003zIIx6YQ003XuAIXuBYQ003XuCIXi
  PYQ003zKIzLYQ003zNIzOYQ003zQIzRYQ003zTIx7YQ003zVIx8YQ003-1I-2YQ003-4Ix9YQ004kBIkC4kDhB004vRIvS4s
  ShB004j7IiC4iShB006Ka6LfCfEb0fFZ000cRXQ3XYDIr4jQ003XYEIr5jQ006qBa6qCfCsTb0sUZ000mFXQ3XYBIz3YQ003
  XYCIz4YQ003lIIlHYQ003XYDIr4YQ003XYEIr5YQ003uTIuSYQ00FX2aUiESXJ4ZORrGXIBZHX81m5FO5P600m6LsRXJm7XT
  Y2Y9FX2aUiESXJ4ZORrHXIBZHX81m5FO5P600m6LsRXJm7XTY2Y9FX2aUiESXJ4ZORrIXIBZHX81m5FO5P600m6LsRXJm7XT
  Y2Y93-7I-6e700EX2aUXWQSBoSXuDBX81Xc4FO5P600Xc5LXuEXJXc6XTY2Y9YyOYJDX2jRBZLX81O5P600XuFLYyPYMYyQX
  JaPYKY2Y9YyRXNXiQbBDX2jRBZLX81O5P600YySLYyTYMYyUXJaPYKY2Y9YyVXNYz0bB3-AI-9e700CNZUiESXJ4ZORrEXIB
  ZHT1758600mGLy2XTDX2ZRiESXJ4ZORrEXIBZHsV1m5FO5P600m6Lm7XT5kBIkCZKkDgEXiRb9005vRIvSZKsSgEXiSb9003
  lIIlHe7004lIIlHjS00Yz1YJ5j7IiCZKiSgEXiTb9006d7ZCc5gFX33XuG9vQ2006XaEZCxTgFX33Yz29vQ2006XaFZCxUgF
  X33Yz39vQ2003uTIuSe700CNZUiESXJ4ZORrFXIBZHT1758600mGLy2XTDX2ZRiESXJ4ZORrFXIBZHsV1m5FO5P600m6Lm7X
  T3XYBIz3e7003XYCIz4e7004p4InMjS00XuHYJ6sMZCc6e8XuI9vQ200XiUa5CNZUiESXJ4ZORrGXIBZHT1758600mGLy2XT
  DX2ZRiESXJ4ZORrGXIBZHsV1m5FO5P600m6Lm7XT5qDZCqEoT33ZI200SZDUQXBn0c5SP33ZTX6A1991GaMXKaQXMZPX2ZQX
  3a6CaGXCaHAZJDZEVZ8QZI2ZRX5a1X9a2XAaRXOC800RXLaSXPSZDUQXBn6c5SP33ZTX6A1991GaMXKaQXMZPX2ZQX3a6CaG
  XCaHAZJDZEVZ8QZI2ZRX5a1X9a2XAaRXOC800RXLaSXPSZDUQXBqFc5SP33ZTX6A1991GaMXKaQXMZPX2ZQX3a6CaGXCaHAZ
  JDZEVZ8QZI2ZRX5a1X9a2XAaRXOC800RXLaSXPSZDUQXBn7c5SP33ZTX6A1991GaMXKaQXMZPX2ZQX3a6CaGXCaHAZJDZEVZ
  8QZI2ZRX5a1X9a2XAaRXOC800RXLaSXPSZDUQXBn1c5SP33ZTX6A1991GaMXKaQXMZPX2ZQX3a6CaGXCaHAZJDZEVZ8QZI2Z
  RX5a1X9a2XAaRXOC800RXLaSXPFZDUX6oUX7cU33A1991GZPX2ZQX3ZJDZEVZ8QZI2C800AX7ZCX6oV33A1991GZ8QXc72C8
  00MZDUX6jTX7P33ZTX6A1991GZPX2ZQX3a6CaGXCaHAZJDZEVZ8QZI2ZRX5a1X9a2XAC800NZDUX6p0X7P33ZTX6A1991GaM
  XKZPX2ZQX3a6CaGXCaHAZJDZEVZ8QZI2ZRX5a1X9a2XAC800DZDUX6jUX7cV33A1991GZJDZEVZ8QXc72C800JZDUX6jVX7d
  033ZTX6A1991GZPX2ZQX3ZJDZEVZ8QZI2ZRX5a1X9a2XAC800KZDUX6jVX7bC33ZTX6A1991GZPX2ZQX3a6CZJDZEVZ8QZI2
  ZRX5a1X9a2XAC800LZDUX6jTX7bC33ZTX6A1991GZPX2ZQX3a6CaGXCZJDZEVZ8QZI2ZRX5a1X9a2XAC800CZDUX6jUX7d13
  3A1991GZEVZ8QXc72C800DX7bDQXBX6p1SP33A1991GZ8QXc72C800RXLHZDUX6p2X7d233ZTX6A1991GZPX2ZQX3ZJDZEVZ
  8QZI2ZRX5C800OZDUX6p3X7P33ZTX6A1991GaMXKaQXMZPX2ZQX3a6CaGXCaHAZJDZEVZ8QZI2ZRX5a1X9a2XAC800SZDUQX
  Bn2c5SP33ZTX6A1991GaMXKaQXMZPX2ZQX3a6CaGXCaHAZJDZEVZ8QZI2ZRX5a1X9a2XAaRXOC800RXLaSXPSZDUQXBqGc5S
  P33ZTX6A1991GaMXKaQXMZPX2ZQX3a6CaGXCaHAZJDZEVZ8QZI2ZRX5a1X9a2XAaRXOC800RXLaSXPSZDUQXBn3c5SP33ZTX
  6A1991GaMXKaQXMZPX2ZQX3a6CaGXCaHAZJDZEVZ8QZI2ZRX5a1X9a2XAaRXOC800RXLaSXPSZDUQXBn4c5SP33ZTX6A1991
  GaMXKaQXMZPX2ZQX3a6CaGXCaHAZJDZEVZ8QZI2ZRX5a1X9a2XAaRXOC800RXLaSXPSZDUQXBn5c5SP33ZTX6A1991GaMXKa
  QXMZPX2ZQX3a6CaGXCaHAZJDZEVZ8QZI2ZRX5a1X9a2XAaRXOC800RXLaSXPSZDUQXBqHc5SP33ZTX6A1991GaMXKaQXMZPX
  2ZQX3a6CaGXCaHAZJDZEVZ8QZI2ZRX5a1X9a2XAaRXOC800RXLaSXPSZDUQXBqIc5SP33ZTX6A1991GaMXKaQXMZPX2ZQX3a
  6CaGXCaHAZJDZEVZ8QZI2ZRX5a1X9a2XAaRXOC800RXLaSXPSZDUQXBqJc5SP33ZTX6A1991GaMXKaQXMZPX2ZQX3a6CaGXC
  aHAZJDZEVZ8QZI2ZRX5a1X9a2XAaRXOC800RXLaSXPCNZUiESXJ4ZORrHXIBZHT1758600mGLy2XTDX2ZRiESXJ4ZORrHXIB
  ZHsV1m5FO5P600m6Lm7XTCNZUiESXJ4ZORrIXIBZHT1758600mGLy2XTDX2ZRiESXJ4ZORrIXIBZHsV1m5FO5P600m6Lm7XT
  9qKZCqLp433A1991GYz42C800CqMbDQXBqNp5SP33A1991GYz52C800RXLSZDUQXBqOc5SP33ZTX6A1991GaMXKaQXMZPX2Z
  QX3a6CaGXCaHAZJDZEVZ8QZI2ZRX5a1X9a2XAaRXOC800RXLaSXP8qPZCqQp633A1991GYz62007pAIpBp7XB1XA9XsRG00Y
  6K9qKZCqLp8X33XB1XA91GYz72XI800UYRUQXBiVRSP33XuJYAZ7X6nOX7A1991GZSXKZUXMZ1X2Z2X3ZCCZFXCZKAYUDYSV
  YMQYV2Z3X5Z9X9ZAXAa3XOC800RXLa4XPCqMbDY4XBqNp9Y3PX33XB1XA91GYz82XI800Y5XLSbIUY4XBqOc6Y3PX33c7X6X
  B1XA91GeDXKeOXMbTX2bUX3cSCd8XCdQAbMDbJVaTQbN2bOX5cCX9cDXAfGXOXI800Y5XLfHXP8qPZCqQpAX33XB1XA91GYz
  92005qDZCqEpBX33bN200SbIUY4XBn0c6Y3PX33c7X6XB1XA91GeDXKeOXMbTX2bUX3cSCd8XCdQAbMDbJVaTQbN2bOX5cCX
  9cDXAfGXOXI800Y5XLfHXPSbIUY4XBn6c6Y3PX33c7X6XB1XA91GeDXKeOXMbTX2bUX3cSCd8XCdQAbMDbJVaTQbN2bOX5cC
  X9cDXAfGXOXI800Y5XLfHXPSbIUY4XBqFc6Y3PX33c7X6XB1XA91GeDXKeOXMbTX2bUX3cSCd8XCdQAbMDbJVaTQbN2bOX5c
  CX9cDXAfGXOXI800Y5XLfHXPSbIUY4XBn7c6Y3PX33c7X6XB1XA91GeDXKeOXMbTX2bUX3cSCd8XCdQAbMDbJVaTQbN2bOX5
  cCX9cDXAfGXOXI800Y5XLfHXPSbIUY4XBn1c6Y3PX33c7X6XB1XA91GeDXKeOXMbTX2bUX3cSCd8XCdQAbMDbJVaTQbN2bOX
  5cCX9cDXAfGXOXI800Y5XLfHXPFbIUX6pCX7cUX33XB1XA91GbTX2bUX3bMDbJVaTQbN2XI8003-MIv3hC00AX7ZCX6pDX33
  XB1XA91GaTQXc82XI800MbIUX6k0X7PX33c7X6XB1XA91GbTX2bUX3cSCd8XCdQAbMDbJVaTQbN2bOX5cCX9cDXAXI800NbI
  UX6pEX7PX33c7X6XB1XA91GeDXKbTX2bUX3cSCd8XCdQAbMDbJVaTQbN2bOX5cCX9cDXAXI800DbIUX6k1X7cVX33XB1XA91
  GbMDbJVaTQXc82XI800JbIUX6k2X7d0X33c7X6XB1XA91GbTX2bUX3bMDbJVaTQbN2bOX5cCX9cDXAXI800KbIUX6k2X7bCX
  33c7X6XB1XA91GbTX2bUX3cSCbMDbJVaTQbN2bOX5cCX9cDXAXI800LbIUX6k0X7bCX33c7X6XB1XA91GbTX2bUX3cSCd8XC
  bMDbJVaTQbN2bOX5cCX9cDXAXI800CbIUX6k1X7d1X33XB1XA91GbJVaTQXc82XI800DX7bDY4XBX6pFY3PX33XB1XA91GaT
  QXc82XI800Y5XLHbIUX6pGX7d2X33c7X6XB1XA91GbTX2bUX3bMDbJVaTQbN2bOX5XI800ObIUX6pHX7PX33c7X6XB1XA91G
  eDXKeOXMbTX2bUX3cSCd8XCdQAbMDbJVaTQbN2bOX5cCX9cDXAXI800SbIUY4XBn2c6Y3PX33c7X6XB1XA91GeDXKeOXMbTX
  2bUX3cSCd8XCdQAbMDbJVaTQbN2bOX5cCX9cDXAfGXOXI800Y5XLfHXPSbIUY4XBqGc6Y3PX33c7X6XB1XA91GeDXKeOXMbT
  X2bUX3cSCd8XCdQAbMDbJVaTQbN2bOX5cCX9cDXAfGXOXI800Y5XLfHXPCX2gGBZLX81O5P600vTLXuKYMXuLXJY2Y9XuMXN
  Xc9bBSbIUY4XBn3c6Y3PX33c7X6XB1XA91GeDXKeOXMbTX2bUX3cSCd8XCdQAbMDbJVaTQbN2bOX5cCX9cDXAfGXOXI800Y5
  XLfHXPSbIUY4XBn4c6Y3PX33c7X6XB1XA91GeDXKeOXMbTX2bUX3cSCd8XCdQAbMDbJVaTQbN2bOX5cCX9cDXAfGXOXI800Y
  5XLfHXPSbIUY4XBn5c6Y3PX33c7X6XB1XA91GeDXKeOXMbTX2bUX3cSCd8XCdQAbMDbJVaTQbN2bOX5cCX9cDXAfGXOXI800
  Y5XLfHXPSbIUY4XBqHc6Y3PX33c7X6XB1XA91GeDXKeOXMbTX2bUX3cSCd8XCdQAbMDbJVaTQbN2bOX5cCX9cDXAfGXOXI80
  0Y5XLfHXPSbIUY4XBqIc6Y3PX33c7X6XB1XA91GeDXKeOXMbTX2bUX3cSCd8XCdQAbMDbJVaTQbN2bOX5cCX9cDXAfGXOXI8
  00Y5XLfHXPANY0XJ4ZORrEXIBZHT1758600mGL3-NIv4hC00CX2gGBZLX81O5P600YzALYzBYMYzCXJY2Y9YzDXNYzEbBEX2
  aUiESXJ4rJYNBZHX81m5FO5P600m6LsRXJm7XTY2Y93-OIv5hC00SbIUY4XBqJc6Y3PX33c7X6XB1XA91GeDXKeOXMbTX2bU
  X3cSCd8XCdQAbMDbJVaTQbN2bOX5cCX9cDXAfGXOXI800Y5XLfHXP6KI-V4LZEl1b900pOX13k3IbSk3004mEZCi1YOvQ200
  5_4Iq3gFX33YzF9006KIdP4LZEnPb900XhSX15sMZCc6e8XuI9vQ2004XWRk4XWSpI00XiVfD3XaGI_5k3007j7a6iC4iSeL
  q5b0q6Z000k4XQANY0XJ4ZORrFXIBZHT1758600mGL7kBa6kC4kDeLq7b0q8Z000l2XQ5kBIkCZKkDZEt0b9005vRIvSZKsS
  ZEy3b9005j7IiCZKiSZEt1b9007KZ4v64LaCcRjCfE1fFZ5004rKIgIYO00XiUa54mEIi1YO00XuNa54sNImQYO00XiUa58j
  7Z4iC4iSaCXj0YNk4cSq51q6Z5008kBZ4kC4kDaCXj1YNl2cSq71q8Z500UYRUQXBiVRSP33XuOYAZ7X6nOX7A1991GZSXKZ
  UXMZ1X2Z2X3ZCCZFXCZKAYUDYSVYMQYV2Z3X5Z9X9ZAXAa3XOC800RXLa4XPANY0XJ4ZORrGXIBZHT1758600mGLSZDUQXBy
  4pJSP33ZTX6A1991GaMXKaQXMZPX2ZQX3a6CaGXCaHAZJDZEVZ8QZI2ZRX5a1X9a2XAaRXOC800RXLaSXPUYRUQXBiVRSP33
  XuPYAZ7X6nOX7A1991GZSXKZUXMZ1X2Z2X3ZCCZFXCZKAYUDYSVYMQYV2Z3X5Z9X9ZAXAa3XOC800RXLa4XPANY0XJ4ZORrH
  XIBZHT1758600mGLUYRUQXBiVRSP33XuQYAZ7X6nOX7A1991GZSXKZUXMZ1X2Z2X3ZCCZFXCZKAYUDYSVYMQYV2Z3X5Z9X9Z
  AXAa3XOC800RXLa4XPANY0XJ4ZORrIXIBZHT1758600mGL5qDZCqEpKX33g2200SfIUY4XBn0c7Y3PX33hJX6XB1XA91GjQX
  KkEXMgJX2gKX3iFCj0XCj8Ag3DfJVeEQg22gLX5i2X9i3XAl3XOXI800Y5XLl4XPSfIUY4XBn6c7Y3PX33hJX6XB1XA91GjQ
  XKkEXMgJX2gKX3iFCj0XCj8Ag3DfJVeEQg22gLX5i2X9i3XAl3XOXI800Y5XLl4XPSfIUY4XBqFc7Y3PX33hJX6XB1XA91Gj
  QXKkEXMgJX2gKX3iFCj0XCj8Ag3DfJVeEQg22gLX5i2X9i3XAl3XOXI800Y5XLl4XPSfIUY4XBn7c7Y3PX33hJX6XB1XA91G
  jQXKkEXMgJX2gKX3iFCj0XCj8Ag3DfJVeEQg22gLX5i2X9i3XAl3XOXI800Y5XLl4XPSfIUY4XBn1c7Y3PX33hJX6XB1XA91
  GjQXKkEXMgJX2gKX3iFCj0XCj8Ag3DfJVeEQg22gLX5i2X9i3XAl3XOXI800Y5XLl4XPFfIUX6pLX7cUX33XB1XA91GgJX2g
  KX3g3DfJVeEQg22XI800AX7ZCX6pMX33XB1XA91GeEQXcA2XI800MfIUX6k5X7PX33hJX6XB1XA91GgJX2gKX3iFCj0XCj8A
  g3DfJVeEQg22gLX5i2X9i3XAXI800NfIUX6pNX7PX33hJX6XB1XA91GjQXKgJX2gKX3iFCj0XCj8Ag3DfJVeEQg22gLX5i2X
  9i3XAXI800DfIUX6k6X7cVX33XB1XA91Gg3DfJVeEQXcA2XI800JfIUX6k7X7d0X33hJX6XB1XA91GgJX2gKX3g3DfJVeEQg
  22gLX5i2X9i3XAXI800KfIUX6k7X7bCX33hJX6XB1XA91GgJX2gKX3iFCg3DfJVeEQg22gLX5i2X9i3XAXI800LfIUX6k5X7
  bCX33hJX6XB1XA91GgJX2gKX3iFCj0XCg3DfJVeEQg22gLX5i2X9i3XAXI800CfIUX6k6X7d1X33XB1XA91GfJVeEQXcA2XI
  800DX7bDY4XBX6pOY3PX33XB1XA91GeEQXcA2XI800Y5XLHfIUX6pPX7d2X33hJX6XB1XA91GgJX2gKX3g3DfJVeEQg22gLX
  5XI800OfIUX6pQX7PX33hJX6XB1XA91GjQXKkEXMgJX2gKX3iFCj0XCj8Ag3DfJVeEQg22gLX5i2X9i3XAXI800SfIUY4XBn
  2c7Y3PX33hJX6XB1XA91GjQXKkEXMgJX2gKX3iFCj0XCj8Ag3DfJVeEQg22gLX5i2X9i3XAl3XOXI800Y5XLl4XPSfIUY4XB
  qGc7Y3PX33hJX6XB1XA91GjQXKkEXMgJX2gKX3iFCj0XCj8Ag3DfJVeEQg22gLX5i2X9i3XAl3XOXI800Y5XLl4XPSfIUY4X
  Bn3c7Y3PX33hJX6XB1XA91GjQXKkEXMgJX2gKX3iFCj0XCj8Ag3DfJVeEQg22gLX5i2X9i3XAl3XOXI800Y5XLl4XPSfIUY4
  XBn4c7Y3PX33hJX6XB1XA91GjQXKkEXMgJX2gKX3iFCj0XCj8Ag3DfJVeEQg22gLX5i2X9i3XAl3XOXI800Y5XLl4XPSfIUY
  4XBn5c7Y3PX33hJX6XB1XA91GjQXKkEXMgJX2gKX3iFCj0XCj8Ag3DfJVeEQg22gLX5i2X9i3XAl3XOXI800Y5XLl4XPSfIU
  Y4XBqHc7Y3PX33hJX6XB1XA91GjQXKkEXMgJX2gKX3iFCj0XCj8Ag3DfJVeEQg22gLX5i2X9i3XAl3XOXI800Y5XLl4XPSfI
  UY4XBqIc7Y3PX33hJX6XB1XA91GjQXKkEXMgJX2gKX3iFCj0XCj8Ag3DfJVeEQg22gLX5i2X9i3XAl3XOXI800Y5XLl4XPSf
  IUY4XBqJc7Y3PX33hJX6XB1XA91GjQXKkEXMgJX2gKX3iFCj0XCj8Ag3DfJVeEQg22gLX5i2X9i3XAl3XOXI800Y5XLl4XP7
  Ka6iU4LpRfEb0fFZ000cRXQ9qKZCqLpSX33XB1XA91GYzG2XI800CqMbDY4XBqNpTY3PX33XB1XA91GYzH2XI800Y5XLSfIU
  Y4XBqOc7Y3PX33hJX6XB1XA91GjQXKkEXMgJX2gKX3iFCj0XCj8Ag3DfJVeEQg22gLX5i2X9i3XAl3XOXI800Y5XLl4XP8qP
  ZCqQpUX33XB1XA91GYzI200TbIUY4XBXcBRY3PX33XuRZ2c7X6XB1XA91GeDXKeOXMbTX2bUX3cSCd8XCdQAbMDbJVaTQbN2
  bOX5cCX9cDXAfGXOXI800Y5XLfHXP4pAIpBpV00Y6KAYzJY0f4BqRRYzKXIq21a8YB758600Xj2LTbIUY4XBXcBRY3PX33Xu
  SZ2c7X6XB1XA91GeDXKeOXMbTX2bUX3cSCd8XCdQAbMDbJVaTQbN2bOX5cCX9cDXAfGXOXI800Y5XLfHXPTbIUY4XBXcBRY3
  PX33XuTZ2c7X6XB1XA91GeDXKeOXMbTX2bUX3cSCd8XCdQAbMDbJVaTQbN2bOX5cCX9cDXAfGXOXI800Y5XLfHXP4kBIkC4k
  DYV004XaHIXaIk8X33004vRIvS4sSYV004j7IiC4iSYV00FNaUd9SXJ4YORh9XIBZ1T1eMF758600Z0LlVXJbFXTm0Y9BX2Z
  RXWQSBZLsV1Xc4FO5P600Xc5LXc6XTXiQXN4hVa2i0a7BgH004XsLIXsMk8X3300CX2aUXWTSBaNX81XcCFO5P600XcDLXj3
  XJXcEXTY2Y99KZ4XcFZKLaCXj4cJYzLYAnT1nUZ500gIXQ9KZ4-V4LaCl1cJcRdIfE1fFZ500pOX14XaJIXaKYV00i1XQ6Xa
  JZ4XaKYVnVCrNA00qSXQ6Ka6LeLnTb0nUZ000gIXQ7Ka6sH4Lq0fEb0fFZ000cRXQ6XsNZ4XsOYVnVCrNA00qSXQUbIUY4XB
  XuURXWUXIY3PX33Xj5Z2c7X6XB1XA91GeDXKeOXMbTX2bUX3cSCd8XCdQAbMDbJVaTQbN2bOX5cCX9cDXAfGXOXI800Y5XLf
  HXPUbIUY4XBXuURXWUXIY3PX33n6Z2c7X6XB1XA91GeDXKeOXMbTX2bUX3cSCd8XCdQAbMDbJVaTQbN2bOX5cCX9cDXAfGXO
  XI800Y5XLfHXPUbIUY4XBYzMRXWUXIY3PX33n7Z2c7X6XB1XA91GeDXKeOXMbTX2bUX3cSCd8XCdQAbMDbJVaTQbN2bOX5cC
  X9cDXAfGXOXI800Y5XLfHXPUbIUY4XBYzNRXuVXIY3PX33n7Z2c7X6XB1XA91GeDXKeOXMbTX2bUX3cSCd8XCdQAbMDbJVaT
  QbN2bOX5cCX9cDXAfGXOXI800Y5XLfHXPCX2aUXWVSBZLX81XcGFO5P600XcHLXv0XJXcIXTY2Y9BX2ZRXWVSBZLX81XcGFO
  5P600XcHLXcIXTXc9XNCX2aUXX0SBZLX81XcJFO5P600YzOLYzPXJXcKXTY2Y9BX2ZRXX0SBZLX81XcJFO5P600YzQLXcKXT
  YzRXNCX2aUXcLSBaNX81Xj6FO5P600Xj7LXv1XJXj8XTY2Y99j7Z4iCZKiSaCt1cJYzSYAq51q6Z500k4XQ9kBZ4kCZKkDaC
  t0cJYzTYAq71q8Z500l2XQ9KZ4Xv2ZKLaCXj9cJYzUYAnT1nUZ500gIXQCX2aUvUSBZLX81y5FO5P600YzVLY-0XJy6XTY2Y
  9BX2ZRvUSBZLX81y5FO5P600Y-1Ly6XTY-2XNBNZUiESXJ4rJYNBZHT1758600mGLy2XTCX2ZRiESXJ4rJYNBZHsV1m5FO5P
  600m6Lm7XTCX2aUXcMSBaNX81XjAFO5P600XjBLXv3XJXjCXTY2Y9TbIUY4XBXWUYNY3PX33XjDZ2c7X6XB1XA91GeDXKeOX
  MbTX2bUX3cSCd8XCdQAbMDbJVaTQbN2bOX5cCX9cDXAfGXOXI800Y5XLfHXP6j7IiC4iSbInMc800Xf5YJ9qKZCqLq133A19
  91GY-32C800CqMbDQXBqNq2SP33A1991GY-42C800RXLSYRUQXBqOc9SP33Z7X6A1991GZSXKZUXMZ1X2Z2X3ZCCZFXCZKAY
  UDYSVYMQYV2Z3X5Z9X9ZAXAa3XOC800RXLa4XP3XaMI_8YO003xVIcRYO003rKIgIYO004_9IsPe8Y-59003nSIjPYO004nS
  IjPk9XjE1003mEIi1YO003XaNI_AYO008qPZCqQq333A1991GY-62005qDZCqEq433YV200SYRUQXBn0c9SP33Z7X6A1991G
  ZSXKZUXMZ1X2Z2X3ZCCZFXCZKAYUDYSVYMQYV2Z3X5Z9X9ZAXAa3XOC800RXLa4XPSYRUQXBn6c9SP33Z7X6A1991GZSXKZU
  XMZ1X2Z2X3ZCCZFXCZKAYUDYSVYMQYV2Z3X5Z9X9ZAXAa3XOC800RXLa4XPFNaUd9SXJ4YORhBXIBZ1T1eMF758600Z0LlVX
  JbFXTm0Y9SYRUQXBqFc9SP33Z7X6A1991GZSXKZUXMZ1X2Z2X3ZCCZFXCZKAYUDYSVYMQYV2Z3X5Z9X9ZAXAa3XOC800RXLa
  4XP3-HIk4YO004d7Ic5e8XuG9004XaOI_Be8Y-79003XaPI_CYO006Ka6LeLfEb0fFZ000cRXQ9KZ4XcFZKLaCXv4cJY-8YA
  nT1nUZ500gIXQ9KZ4_04LaCmPcJcRdIfE1fFZ500pOX13_DIl2YO003XaQI_EYO004XaRgDvGYOnVC003rMIq9YO003_FImF
  YO003_GIy0YO006XiBZ4vHYVnVCrNA00qSXQ6XiCZ4_Hq5XjE1nSZ500jPXQ4XaSIvIYV00Y-9XQ4XaTI_Ik9XjE1003_6Im
  RYO003_JIy1YO003XaUI_KYO003-SIxIYO00SYRUQXBn7c9SP33Z7X6A1991GZSXKZUXMZ1X2Z2X3ZCCZFXCZKAYUDYSVYMQ
  YV2Z3X5Z9X9ZAXAa3XOC800RXLa4XPSYRUQXBn1c9SP33Z7X6A1991GZSXKZUXMZ1X2Z2X3ZCCZFXCZKAYUDYSVYMQYV2Z3X
  5Z9X9ZAXAa3XOC800RXLa4XPFYRUX6q6X7cU33A1991GZ1X2Z2X3YUDYSVYMQYV2C800AX7ZCX6q733A1991GYMQXcN2C800
  MYRUX6kAX7P33Z7X6A1991GZ1X2Z2X3ZCCZFXCZKAYUDYSVYMQYV2Z3X5Z9X9ZAXAC800NYRUX6q8X7P33Z7X6A1991GZSXK
  Z1X2Z2X3ZCCZFXCZKAYUDYSVYMQYV2Z3X5Z9X9ZAXAC800DYRUX6kBX7cV33A1991GYUDYSVYMQXcN2C800JYRUX6kCX7d03
  3Z7X6A1991GZ1X2Z2X3YUDYSVYMQYV2Z3X5Z9X9ZAXAC800KYRUX6kCX7bC33Z7X6A1991GZ1X2Z2X3ZCCYUDYSVYMQYV2Z3
  X5Z9X9ZAXAC800LYRUX6kAX7bC33Z7X6A1991GZ1X2Z2X3ZCCZFXCYUDYSVYMQYV2Z3X5Z9X9ZAXAC800CYRUX6kBX7d133A
  1991GYSVYMQXcN2C800DX7bDQXBX6q9SP33A1991GYMQXcN2C800RXLHYRUX6qAX7d233Z7X6A1991GZ1X2Z2X3YUDYSVYMQ
  YV2Z3X5C800OYRUX6qBX7P33Z7X6A1991GZSXKZUXMZ1X2Z2X3ZCCZFXCZKAYUDYSVYMQYV2Z3X5Z9X9ZAXAC800SYRUQXBn
  2c9SP33Z7X6A1991GZSXKZUXMZ1X2Z2X3ZCCZFXCZKAYUDYSVYMQYV2Z3X5Z9X9ZAXAa3XOC800RXLa4XPSYRUQXBqGc9SP3
  3Z7X6A1991GZSXKZUXMZ1X2Z2X3ZCCZFXCZKAYUDYSVYMQYV2Z3X5Z9X9ZAXAa3XOC800RXLa4XPSYRUQXBn3c9SP33Z7X6A
  1991GZSXKZUXMZ1X2Z2X3ZCCZFXCZKAYUDYSVYMQYV2Z3X5Z9X9ZAXAa3XOC800RXLa4XPSYRUQXBn4c9SP33Z7X6A1991GZ
  SXKZUXMZ1X2Z2X3ZCCZFXCZKAYUDYSVYMQYV2Z3X5Z9X9ZAXAa3XOC800RXLa4XPSYRUQXBn5c9SP33Z7X6A1991GZSXKZUX
  MZ1X2Z2X3ZCCZFXCZKAYUDYSVYMQYV2Z3X5Z9X9ZAXAa3XOC800RXLa4XPSYRUQXBqHc9SP33Z7X6A1991GZSXKZUXMZ1X2Z
  2X3ZCCZFXCZKAYUDYSVYMQYV2Z3X5Z9X9ZAXAa3XOC800RXLa4XPSYRUQXBqIc9SP33Z7X6A1991GZSXKZUXMZ1X2Z2X3ZCC
  ZFXCZKAYUDYSVYMQYV2Z3X5Z9X9ZAXAa3XOC800RXLa4XP3XYGIxAYO003_7ImSYO003_LIsQYO003XaVI_MYO003Xb0I_NY
  O003Xb1I_OYO003Xb2I_PYO007Ka6LqCc5c3hH9hIGd7Z0005Ka6LeLq9c3rMZ0006qBa6qCeLsTb0sUZ000mFXQ4k9IkAYV
  00mRXQ3Xb3I_QYO003Xb4I_RYO003Xb5I_SYO004qAImTe8XsP9003_1ImNYO003_2ImOYO004qAImTe8XsQ9003vJImUYO0
  06vJZ4mUYVnVCrNA00qSXQ3Xb6I_TYO003Xb7I_UYO003Xb8I_VYO003Xb9IXW0YO003-TIxJYO003XbAIXW1YO004XbBgDv
  KYOnVC003XbCIXW2YO003XYHIxBYO003XbDIXW3YO003XbEIXW4YO003XbFIXW5YO003XbGIXW6YO003XbHIXW7YO003XbII
  XW8YO003XbJIXW9YO003XbKIXWAYO004k9IkAYV00mSXQ3XbLIXWBYO003XbMIXWCYO006XiDZ4vLYVnVCrNA00qSXQ3-UIx
  KYO003XbNIXWDYO003vMImVYO006vMZ4mVYVnVCrNA00qSXQSYRUQXBqJc9SP33Z7X6A1991GZSXKZUXMZ1X2Z2X3ZCCZFXC
  ZKAYUDYSVYMQYV2Z3X5Z9X9ZAXAa3XOC800RXLa4XP3XYIIxCYO003XbOIXWEYO003XbPIXWFYO003XbQIXWGYO003XbRIXW
  HYO003XbSIXWIYO003XbTIXWJYO003XbUIXWKYO003XYJIxDYO003XbVIXWLYO003Xc0IXWMYO003Xc1IXWNYO003Xc2IXWO
  YO003Xc3IXWPYO006XiEZ4vNYVnVCrNA00qSXQ5p4IiC4nMqD00XuHYJFNaUd9SXJ4YORhAXIBZ1T1eMF758600Z0LlVXJbF
  XTm0Y9TfIUY4XBXX1qEY3PX33Y-Aa0XB1XA91GjQXKkEXMgJX2gKX3iFCj0XCj8Ag3DfJVeEQg22gLX5i2X9i3XAhJa4l3XO
  XI800Y5XLl4XPFNaUd9SXJ4YORvVXIBZ1T1eMF758600Z0LlVXJbFXTm0Y97j7a6iC4iSfEk4a9q51q6Z0007KZ4LkDc5h6X
  a49Xa5Gd7Z5007kBa6kC4kDfEl2a9q71q8Z0005KZ4LaCq9h6rMZ5003sNImQYO006XiFZ4vOYVnVCrNA00qSXQ6XiGZ4vPY
  VnVCrNA00qSXQFNaUd9SXJ4YORw0XIBZ1T1eMF758600Z0LlVXJbFXTm0Y99j7Z4iCZKiSaCXiTcJXj0YAq51q6Z500k4XQ9
  kBZ4kCZKkDaCXiRcJXj1YAq71q8Z500l2XQ4k9IkAkEmRcS004k9IkAkEmScS00FNaUd9SXJ4YORw1XIBZ1T1eMF758600Z0
  LlVXJbFXTm0Y9Aj7Z4iC4iSaCXj0b2t1X7q51q6Z500-HX1k4XQAkBZ4kC4kDaCXj1b2t0X7q71q8Z500_DX1l2XQ6KZ4LaC
  fEhDcRcSfFZ5006qBZ4qCaCsThDmFcSsUZ5006KZ4LaCnThDgIcSnUZ5004KIdP4LYV00AY-BY0f4BqRRY-CXIq21a8YB758
  600Xj2L7Ka6xM4LqFfEb0fFZ000cRXQ5qDZCqEqG33g4200SfKUQXBn0cASP33hKX6A1991GjRXKkFXMgMX2gNX3iGCj1XCj
  9Ag5DfLVeFQg42gOX5i4X9i5XAl5XOC800RXLl6XPSfKUQXBn6cASP33hKX6A1991GjRXKkFXMgMX2gNX3iGCj1XCj9Ag5Df
  LVeFQg42gOX5i4X9i5XAl5XOC800RXLl6XPSfKUQXBqFcASP33hKX6A1991GjRXKkFXMgMX2gNX3iGCj1XCj9Ag5DfLVeFQg
  42gOX5i4X9i5XAl5XOC800RXLl6XPSfKUQXBn7cASP33hKX6A1991GjRXKkFXMgMX2gNX3iGCj1XCj9Ag5DfLVeFQg42gOX5
  i4X9i5XAl5XOC800RXLl6XPSfKUQXBn1cASP33hKX6A1991GjRXKkFXMgMX2gNX3iGCj1XCj9Ag5DfLVeFQg42gOX5i4X9i5
  XAl5XOC800RXLl6XPFfKUX6qHX7cU33A1991GgMX2gNX3g5DfLVeFQg42C800AX7ZCX6qI33A1991GeFQXcO2C800MfKUX6k
  FX7P33hKX6A1991GgMX2gNX3iGCj1XCj9Ag5DfLVeFQg42gOX5i4X9i5XAC800NfKUX6qJX7P33hKX6A1991GjRXKgMX2gNX
  3iGCj1XCj9Ag5DfLVeFQg42gOX5i4X9i5XAC800DfKUX6kGX7cV33A1991Gg5DfLVeFQXcO2C800JfKUX6kHX7d033hKX6A1
  991GgMX2gNX3g5DfLVeFQg42gOX5i4X9i5XAC800KfKUX6kHX7bC33hKX6A1991GgMX2gNX3iGCg5DfLVeFQg42gOX5i4X9i
  5XAC800LfKUX6kFX7bC33hKX6A1991GgMX2gNX3iGCj1XCg5DfLVeFQg42gOX5i4X9i5XAC800CfKUX6kGX7d133A1991GfL
  VeFQXcO2C800DX7bDQXBX6qKSP33A1991GeFQXcO2C800RXLHfKUX6qLX7d233hKX6A1991GgMX2gNX3g5DfLVeFQg42gOX5
  C800OfKUX6qMX7P33hKX6A1991GjRXKkFXMgMX2gNX3iGCj1XCj9Ag5DfLVeFQg42gOX5i4X9i5XAC800SfKUQXBn2cASP33
  hKX6A1991GjRXKkFXMgMX2gNX3iGCj1XCj9Ag5DfLVeFQg42gOX5i4X9i5XAl5XOC800RXLl6XPSfKUQXBqGcASP33hKX6A1
  991GjRXKkFXMgMX2gNX3iGCj1XCj9Ag5DfLVeFQg42gOX5i4X9i5XAl5XOC800RXLl6XPSfKUQXBn3cASP33hKX6A1991GjR
  XKkFXMgMX2gNX3iGCj1XCj9Ag5DfLVeFQg42gOX5i4X9i5XAl5XOC800RXLl6XPSfKUQXBn4cASP33hKX6A1991GjRXKkFXM
  gMX2gNX3iGCj1XCj9Ag5DfLVeFQg42gOX5i4X9i5XAl5XOC800RXLl6XPSfKUQXBn5cASP33hKX6A1991GjRXKkFXMgMX2gN
  X3iGCj1XCj9Ag5DfLVeFQg42gOX5i4X9i5XAl5XOC800RXLl6XPSfKUQXBqHcASP33hKX6A1991GjRXKkFXMgMX2gNX3iGCj
  1XCj9Ag5DfLVeFQg42gOX5i4X9i5XAl5XOC800RXLl6XPSfKUQXBqIcASP33hKX6A1991GjRXKkFXMgMX2gNX3iGCj1XCj9A
  g5DfLVeFQg42gOX5i4X9i5XAl5XOC800RXLl6XPSfKUQXBqJcASP33hKX6A1991GjRXKkFXMgMX2gNX3iGCj1XCj9Ag5DfLV
  eFQg42gOX5i4X9i5XAl5XOC800RXLl6XP9qKZCqLqN33A1991GY-D2C800CqMbDQXBqNqOSP33A1991GY-E2C800RXLSfKUQ
  XBqOcASP33hKX6A1991GjRXKkFXMgMX2gNX3iGCj1XCj9Ag5DfLVeFQg42gOX5i4X9i5XAl5XOC800RXLl6XP8qPZCqQqP33
  A1991GY-F2004KIiU4LqQ003KILYV004KIsH4LqR003pAIpBYV007KZCLkIY-G3Xv5X7Y-H200Y-IX15KIXcFZKLZEXv4ZS0
  06KI_04LZEmPZS00pOX1TZDUQXBw2RSP33ZTX6A1Xv6XR991GaMXKaQXMZPX2ZQX3a6CaGXCaHAZJDZEVZ8QZI2ZRX5a1X9a
  2XAaRXOC800RXLaSXP3XsSIXsTYV003qBIqCYV003k9IkAYV003XsUIXsVYV00TbIUY4XBn6RY3PX33Xj5Z2c7X6XB1XA91G
  eDXKeOXMbTX2bUX3cSCd8XCdQAbMDbJVaTQbN2bOX5cCX9cDXAfGXOXI800Y5XLfHXP3Xt0In0YV003Xt1IXt2YV00TZDUQX
  Bw2RSP33ZTX6A1Y-JXR991GaMXKaQXMZPX2ZQX3a6CaGXCaHAZJDZEVZ8QZI2ZRX5a1X9a2XAaRXOC800RXLaSXPSZDUQXBX
  v7bHSP33ZTX6A1991GaMXKaQXMZPX2ZQX3a6CaGXCaHAZJDZEVZ8QZI2ZRX5a1X9a2XAaRXOC800RXLaSXP9Y-KY0f4BY-LY
  Nq21a8YB758600Xj2L3Xt3IXiHYV00CNZUd9SXJ4YORh9XIBZ1T1758600Z0LbFXTDNZRd9SXJ4YORh9XIBZ1T1eMF758600
  Z0LbFXTTZDUQXBmHRSP33Xv8YIZTX6A1991GaMXKaQXMZPX2ZQX3a6CaGXCaHAZJDZEVZ8QZI2ZRX5a1X9a2XAaRXOC800RX
  LaSXP5KIXv2ZKLZEXj9ZS005KIY-MZKLZEXv9ZS003XiIIXiJYV009NZUXWQSBZLT1758600XjFLY-NXTSfKUQXBY-OhESP3
  3hKX6A1991GjRXKkFXMgMX2gNX3iGCj1XCj9Ag5DfLVeFQg42gOX5i4X9i5XAl5XOC800RXLl6XP3Xt4IXt5YV003Xt6IXt7
  YV003Xt8IXt9YV003XtAIXtBYV004XWRk4XWSqS00XvAfD9NZUXWTSBaNT1758600XjGLY-PXTAX2ZRXWTSBaNsV1XcCFO5P
  600XcDLXcEXT7KZ4LaCfEhFcRdIfFZ500xVX1TZDUQXBmHRXvBXISP33ZTX6A1991GaMXKaQXMZPX2ZQX3a6CaGXCaHAZJDZ
  EVZ8QZI2ZRX5a1X9a2XAaRXOC800RXLaSXP3XtCIXtDYV003XtEIn1YV00TYRUQXBdORSP33XvCYAZ7X6A1991GZSXKZUXMZ
  1X2Z2X3ZCCZFXCZKAYUDYSVYMQYV2Z3X5Z9X9ZAXAa3XOC800RXLa4XP3XtFIXtGYV00SbIUY4XBy4XSY3PX33c7X6XB1XA9
  1GeDXKeOXMbTX2bUX3cSCd8XCdQAbMDbJVaTQbN2bOX5cCX9cDXAfGXOXI800Y5XLfHXPTZDUQXBmHRSP33ZTX6A1XvDXR99
  1GaMXKaQXMZPX2ZQX3a6CaGXCaHAZJDZEVZ8QZI2ZRX5a1X9a2XAaRXOC800RXLaSXP3XtHIXtIYV003XtJIn2YV003XtKIX
  iKYV00GY-QdBlDSjSRY-RXIT1Y-SFXfKYB758600XvELY-TYMY-UXJY-VXTY_0YKY_1Y93XtLIXiLYV007XiIZCXiJkIY_23
  XjHX7Y_3200Y_4X13XtMIXiMYV003z6Iz7YV00SbIUY4XBXX1XSY3PX33c7X6XB1XA91GeDXKeOXMbTX2bUX3cSCd8XCdQAb
  MDbJVaTQbN2bOX5cCX9cDXAfGXOXI800Y5XLfHXPTZDUQXBmHRSP33XvFYIZTX6A1991GaMXKaQXMZPX2ZQX3a6CaGXCaHAZ
  JDZEVZ8QZI2ZRX5a1X9a2XAaRXOC800RXLaSXP5KIY_5ZKLZEXvGZS005KIY_6ZKLZEXvHZS003XtNIXtOYV00SZDUQXBY_7
  bHSP33ZTX6A1991GaMXKaQXMZPX2ZQX3a6CaGXCaHAZJDZEVZ8QZI2ZRX5a1X9a2XAaRXOC800RXLaSXP9NZUXWVSBZLT175
  8600XcPLY_8XTAX2ZRXWVSBZLX81XcGFO5P600XcHLXcIXT9NZUXX0SBZLT1758600XjILY_9XT3XtPIXtQYV003XtRIn3YV
  003XtSIXtTYV003XtUIn4YV003XtVIn5YV003Xu0IXu1YV003Xu2IXu3YV003Xu4IXu5YV009NZUXcLSBaNT1758600XcQLY
  _AXTAX2ZRXcLSBaNX81Xj6FO5P600Xj7LXj8XT7KZ4LqTc5kJhH9hIGd7Z5005KZ4LhGq9kJrMZ5007qBZ4qCaCsThFmFdIs
  UZ500_FX18KZ4dP4LaCcRc4nPX7fE1fFZ500TZDUQXBmHRSP33ZTX6A1XvIXR991GaMXKaQXMZPX2ZQX3a6CaGXCaHAZJDZE
  VZ8QZI2ZRX5a1X9a2XAaRXOC800RXLaSXP3Xu6IXu7YV003Xu8IXiNYV003Xu9IXiOYV003z9IzAYV003zCIzDYV003zFIzG
  YV003zIIx6YV00TZDUQXBmHRSP33ZTX6XvJX7A1991GaMXKaQXMZPX2ZQX3a6CaGXCaHAZJDZEVZ8QZI2ZRX5a1X9a2XAaRX
  OC800RXLaSXPTYRUQXBiVRSP33XvKYAZ7X6A1991GZSXKZUXMZ1X2Z2X3ZCCZFXCZKAYUDYSVYMQYV2Z3X5Z9X9ZAXAa3XOC
  800RXLa4XPTYRUQXBiVRSP33XvLYAZ7X6A1991GZSXKZUXMZ1X2Z2X3ZCCZFXCZKAYUDYSVYMQYV2Z3X5Z9X9ZAXAa3XOC80
  0RXLa4XPTYRUQXBiVRSP33XvMYAZ7X6A1991GZSXKZUXMZ1X2Z2X3ZCCZFXCZKAYUDYSVYMQYV2Z3X5Z9X9ZAXAa3XOC800R
  XLa4XPTZDUQXBmHRSP33XvNYIZTX6A1991GaMXKaQXMZPX2ZQX3a6CaGXCaHAZJDZEVZ8QZI2ZRX5a1X9a2XAaRXOC800RXL
  aSXP5KIY_BZKLZEXvOZS005KIY_CZKLZEXvPZS009NZUXjJSBZLT1758600XcRLY_DXTAX2ZRXjJSBZLX81XvQFO5P600XvR
  LXvSXTAX2ZRvUSBZLX81y5FO5P600Y_ELy6XTAX2ZRvUSBZLX81y5FO5P600Y_FLy6XT3XuAIXuBYV009NZUXjKSBaNT1758
  600XcSLY_GXTAX2ZRXjKSBaNX81XvTFO5P600XvULXvVXT9NY0XJ4rJYNBZHT1758600mGLAX2ZRXcMSBaNX81XjAFO5P600
  XjBLXjCXT3XuCIXiPYV003zKIzLYV003zNIzOYV003zQIzRYV003zTIx7YV003zVIx8YV00TYRUQXBiVRSP33Xw0YAZ7X6A1
  991GZSXKZUXMZ1X2Z2X3ZCCZFXCZKAYUDYSVYMQYV2Z3X5Z9X9ZAXAa3XOC800RXLa4XPTYRUQXBiVRSP33Xw1YAZ7X6A199
  1GZSXKZUXMZ1X2Z2X3ZCCZFXCZKAYUDYSVYMQYV2Z3X5Z9X9ZAXAa3XOC800RXLa4XPTYRUQXBiVRSP33Xw2YAZ7X6A1991G
  ZSXKZUXMZ1X2Z2X3ZCCZFXCZKAYUDYSVYMQYV2Z3X5Z9X9ZAXAa3XOC800RXLa4XP5KIY_HZKLZEXw3ZS009NZUXw4SBZLT1
  758600XcTLY_IXTAX2ZRXw4SBZLX81Y_JFO5P600Y_KLY_LXTAX2ZRXX2SBZLX81XcUFO5P600Y_MLXcVXTAX2ZRXX2SBZLX
  81XcUFO5P600Y_NLXcVXTAX2ZRXX2SBZLX81XcUFO5P600Y_OLXcVXT9NZUXw5SBaNT1758600Xd0LY_PXTAX2ZRXw5SBaNX
  81Y_QFO5P600Y_RLY_SXTAX2ZRXjLSBaNX81Xw6FO5P600Xw7LXw8XT3-1I-2YV003-4Ix9YV00TYRUQXBiVRSP33Y_TYAZ7
  X6A1991GZSXKZUXMZ1X2Z2X3ZCCZFXCZKAYUDYSVYMQYV2Z3X5Z9X9ZAXAa3XOC800RXLa4XPTYRUQXBiVRSP33Y_UYAZ7X6
  A1991GZSXKZUXMZ1X2Z2X3ZCCZFXCZKAYUDYSVYMQYV2Z3X5Z9X9ZAXAa3XOC800RXLa4XPTYRUQXBiVRSP33Xw9YAZ7X6A1
  991GZSXKZUXMZ1X2Z2X3ZCCZFXCZKAYUDYSVYMQYV2Z3X5Z9X9ZAXAa3XOC800RXLa4XPTYRUQXBiVRSP33XwAYAZ7X6A199
  1GZSXKZUXMZ1X2Z2X3ZCCZFXCZKAYUDYSVYMQYV2Z3X5Z9X9ZAXAa3XOC800RXLa4XP9NZUY_VSBZLT1758600Xd1LZW0XTA
  X2ZRXwBSBZLX81ZW1FO5P600ZW2LZW3XT9NZUZW4SBaNT1758600Xd2LZW5XTAX2ZRXwCSBaNX81ZW6FO5P600ZW7LZW8XT5
  KIXcFZKLZEXj4ZS009NZUvUSBZLT1758600Xd3LZW9XTCNZUd9SXJ4YORhBXIBZ1T1758600Z0LbFXTDNZRd9SXJ4YORhBXI
  BZ1T1eMF758600Z0LbFXT5z6Iz7bIz5c800Xf6YJ7Ka6v84LqUfEb0fFZ000cRXQ9NZUXX2SBZLT1758600Xd4LZWAXT5z9I
  zAbIz8c800Xf7YJ5zCIzDbIzBc800Xf8YJ5zFIzGbIzEc800Xf9YJ9KZ4iU4LaCZWBb2nPX7fE1fFZ500cRXQ5zIIx6bIzHc
  800XfAYJ9NZUXwBSBZLT1758600Xd5LZWCXT5zKIzLbIzJc800XfBYJ5zNIzObIzMc800XfCYJ5zQIzRbIzPc800XfDYJ5zT
  Ix7bIzSc800XfEYJ5zVIx8bIzUc800XfFYJ9NZUZWDSBZLT1758600Xd6LZWEXT5-1I-2bI-0c800XfGYJ5-4Ix9bI-3c800
  XfHYJCNZUd9SXJ4YORhAXIBZ1T1758600Z0LbFXTDNZRd9SXJ4YORhAXIBZ1T1eMF758600Z0LbFXT4z6Iz7ZEz5Y4008KZ4
  v64LaCcRc4fE1fFZ500xVX16Ka6LfEgIa9nT1nUZ0004z9IzAZEz8Y4004zCIzDZEzBY4005zFIzGZEzEdK00XwDYJ4zIIx6
  ZEzHY4004zKIzLZEzJY4005zNIzOZEzMdK00XwEYJ5zQIzRZEzPdK00XwFYJ4zTIx7ZEzSY4004zVIx8ZEzUY4005-1I-2ZE
  -0dK00XwGYJ4-4Ix9ZE-3Y400CNZUd9SXJ4YORvVXIBZ1T1758600Z0LbFXTDNZRd9SXJ4YORvVXIBZ1T1eMF758600Z0LbF
  XT4XWRkKXWSqV00XvAfD6Ka6LfEcRa9fE1fFZ0007Ka6xN4LeMcRa9fE1fFZ0006qBa6qCfEmFa9sT1sUZ000CNZUd9SXJ4Y
  ORw0XIBZ1T1758600Z0LbFXTDNZRd9SXJ4YORw0XIBZ1T1eMF758600Z0LbFXT6KZ4LhGfEkLfFZ500cRXQ6qBZ4qChGsTkL
  sUZ500mFXQCNZUd9SXJ4YORw1XIBZ1T1758600Z0LbFXTDNZRd9SXJ4YORw1XIBZ1T1eMF758600Z0LbFXT7hVY0i0a7XJ4Z
  ORrEXIBZH007hFY0hGa7XJ4ZORrEXIBZH004k9IkAkMmRc4004k9IkAkMmSc4007hVY0i0a7XJ4ZORrFXIBZH007hFY0hGa7
  XJ4ZORrFXIBZH008j7Z4iC4iSaCk4c4t1X7q51q6Z5008kBZ4kC4kDaCl2c4t0X7q71q8Z5007j7a6iC4iSeMk4a9q51q6Z0
  007kBa6kC4kDeMl2a9q71q8Z0007hVY0i0a7XJ4ZORrGXIBZH007hFY0hGa7XJ4ZORrGXIBZH007hVY0i0a7XJ4ZORrHXIBZ
  H007hFY0hGa7XJ4ZORrHXIBZH007hVY0i0a7XJ4ZORrIXIBZH007hFY0hGa7XJ4ZORrIXIBZH00TZDUQXBw2RSP33ZTX6A1X
  wHXR991GaMXKaQXMZPX2ZQX3a6CaGXCaHAZJDZEVZ8QZI2ZRX5a1X9a2XAaRXOC800RXLaSXP5qDZCqEr0X33dR200SdAUY4
  XBY3PX33n0cBePX6XB1XA91Gi6XKiHXMeGX2eHX3g6CgPXChLAdSDdBVcEQdR2eIX5fMX9fNXAj2XOXI800Y5XLj3XPSdAUY
  4XBY3PX33n6cBePX6XB1XA91Gi6XKiHXMeGX2eHX3g6CgPXChLAdSDdBVcEQdR2eIX5fMX9fNXAj2XOXI800Y5XLj3XPSdAU
  Y4XBY3PX33qFcBePX6XB1XA91Gi6XKiHXMeGX2eHX3g6CgPXChLAdSDdBVcEQdR2eIX5fMX9fNXAj2XOXI800Y5XLj3XPSdA
  UY4XBY3PX33n7cBePX6XB1XA91Gi6XKiHXMeGX2eHX3g6CgPXChLAdSDdBVcEQdR2eIX5fMX9fNXAj2XOXI800Y5XLj3XPSd
  AUY4XBY3PX33n1cBePX6XB1XA91Gi6XKiHXMeGX2eHX3g6CgPXChLAdSDdBVcEQdR2eIX5fMX9fNXAj2XOXI800Y5XLj3XPF
  dAUX6r1X7cUX33XB1XA91GeGX2eHX3dSDdBVcEQdR2XI800TYRUQXBdORSP33XwIYAZ7X6A1991GZSXKZUXMZ1X2Z2X3ZCCZ
  FXCZKAYUDYSVYMQYV2Z3X5Z9X9ZAXAa3XOC800RXLa4XPAX7ZCX6r2X33XB1XA91GcEQXd72XI800TZDUQXBmHRSP33ZTX6A
  1XwJXR991GaMXKaQXMZPX2ZQX3a6CaGXCaHAZJDZEVZ8QZI2ZRX5a1X9a2XAaRXOC800RXLaSXPMdAUX6kNX7PX33ePX6XB1
  XA91GeGX2eHX3g6CgPXChLAdSDdBVcEQdR2eIX5fMX9fNXAXI800NdAUX6r3X7PX33ePX6XB1XA91Gi6XKeGX2eHX3g6CgPX
  ChLAdSDdBVcEQdR2eIX5fMX9fNXAXI800DdAUX6kOX7cVX33XB1XA91GdSDdBVcEQXd72XI800JdAUX6kPX7d0X33ePX6XB1
  XA91GeGX2eHX3dSDdBVcEQdR2eIX5fMX9fNXAXI800KdAUX6kPX7bCX33ePX6XB1XA91GeGX2eHX3g6CdSDdBVcEQdR2eIX5
  fMX9fNXAXI800LdAUX6kNX7bCX33ePX6XB1XA91GeGX2eHX3g6CgPXCdSDdBVcEQdR2eIX5fMX9fNXAXI800CdAUX6kOX7d1
  X33XB1XA91GdBVcEQXd72XI800DX7bDY4XBY3PX33X6r4XB1XA91GcEQXd72XI800Y5XLHdAUX6r5X7d2X33ePX6XB1XA91G
  eGX2eHX3dSDdBVcEQdR2eIX5XI800OdAUX6r6X7PX33ePX6XB1XA91Gi6XKiHXMeGX2eHX3g6CgPXChLAdSDdBVcEQdR2eIX
  5fMX9fNXAXI800SdAUY4XBY3PX33n2cBePX6XB1XA91Gi6XKiHXMeGX2eHX3g6CgPXChLAdSDdBVcEQdR2eIX5fMX9fNXAj2
  XOXI800Y5XLj3XPSdAUY4XBY3PX33qGcBePX6XB1XA91Gi6XKiHXMeGX2eHX3g6CgPXChLAdSDdBVcEQdR2eIX5fMX9fNXAj
  2XOXI800Y5XLj3XPSdAUY4XBY3PX33n3cBePX6XB1XA91Gi6XKiHXMeGX2eHX3g6CgPXChLAdSDdBVcEQdR2eIX5fMX9fNXA
  j2XOXI800Y5XLj3XPSdAUY4XBY3PX33n4cBePX6XB1XA91Gi6XKiHXMeGX2eHX3g6CgPXChLAdSDdBVcEQdR2eIX5fMX9fNX
  Aj2XOXI800Y5XLj3XPSdAUY4XBY3PX33n5cBePX6XB1XA91Gi6XKiHXMeGX2eHX3g6CgPXChLAdSDdBVcEQdR2eIX5fMX9fN
  XAj2XOXI800Y5XLj3XPSdAUY4XBY3PX33qHcBePX6XB1XA91Gi6XKiHXMeGX2eHX3g6CgPXChLAdSDdBVcEQdR2eIX5fMX9f
  NXAj2XOXI800Y5XLj3XPSdAUY4XBY3PX33qIcBePX6XB1XA91Gi6XKiHXMeGX2eHX3g6CgPXChLAdSDdBVcEQdR2eIX5fMX9
  fNXAj2XOXI800Y5XLj3XPTZDUQXBmHRSP33ZTX6A1XwKXR991GaMXKaQXMZPX2ZQX3a6CaGXCaHAZJDZEVZ8QZI2ZRX5a1X9
  a2XAaRXOC800RXLaSXPSdAUY4XBY3PX33qJcBePX6XB1XA91Gi6XKiHXMeGX2eHX3g6CgPXChLAdSDdBVcEQdR2eIX5fMX9f
  NXAj2XOXI800Y5XLj3XPTYRUQXBdORSP33XwLYAZ7X6A1991GZSXKZUXMZ1X2Z2X3ZCCZFXCZKAYUDYSVYMQYV2Z3X5Z9X9Z
  AXAa3XOC800RXLa4XPTYRUQXBdORSP33XwMYAZ7X6A1991GZSXKZUXMZ1X2Z2X3ZCCZFXCZKAYUDYSVYMQYV2Z3X5Z9X9ZAX
  Aa3XOC800RXLa4XPTYRUQXBdORSP33XwNYAZ7X6A1991GZSXKZUXMZ1X2Z2X3ZCCZFXCZKAYUDYSVYMQYV2Z3X5Z9X9ZAXAa
  3XOC800RXLa4XPTYRUQXBdORSP33XwOYAZ7X6A1991GZSXKZUXMZ1X2Z2X3ZCCZFXCZKAYUDYSVYMQYV2Z3X5Z9X9ZAXAa3X
  OC800RXLa4XPTYRUQXBdORSP33XwPYAZ7X6A1991GZSXKZUXMZ1X2Z2X3ZCCZFXCZKAYUDYSVYMQYV2Z3X5Z9X9ZAXAa3XOC
  800RXLa4XP9qKZCqLr7X33XB1XA91GZWF2XI800CqMbDY4XBY3PX33qNr8XB1XA91GZWG2XI800Y5XLSdAUY4XBY3PX33qOc
  BePX6XB1XA91Gi6XKiHXMeGX2eHX3g6CgPXChLAdSDdBVcEQdR2eIX5fMX9fNXAj2XOXI800Y5XLj3XP8qPZCqQr9X33XB1X
  A91GZWH2009NZUXcMSBaNT1758600Xd8LZWIXTTYRUQXBiVRSP33XwQYAZ7X6A1991GZSXKZUXMZ1X2Z2X3ZCCZFXCZKAYUD
  YSVYMQYV2Z3X5Z9X9ZAXAa3XOC800RXLa4XP9NZUXjLSBaNT1758600Xd9LZWJXTTYRUQXBiVRSP33XwRYAZ7X6A1991GZSX
  KZUXMZ1X2Z2X3ZCCZFXCZKAYUDYSVYMQYV2Z3X5Z9X9ZAXAa3XOC800RXLa4XPTYRUQXBiVRSP33XwSYAZ7X6A1991GZSXKZ
  UXMZ1X2Z2X3ZCCZFXCZKAYUDYSVYMQYV2Z3X5Z9X9ZAXAa3XOC800RXLa4XP9NZUXwCSBaNT1758600XdALZWKXTTYRUQXBi
  VRSP33XwTYAZ7X6A1991GZSXKZUXMZ1X2Z2X3ZCCZFXCZKAYUDYSVYMQYV2Z3X5Z9X9ZAXAa3XOC800RXLa4XP9NZUZWLSBa
  NT1758600XdBLZWMXT7Ka6xO4LrAfEb0fFZ000cRXQTZDUQXBmHRSP33XwUYIZTX6A1991GaMXKaQXMZPX2ZQX3a6CaGXCaH
  AZJDZEVZ8QZI2ZRX5a1X9a2XAaRXOC800RXLaSXPTZDUQXBmHRSP33XwVYIZTX6A1991GaMXKaQXMZPX2ZQX3a6CaGXCaHAZ
  JDZEVZ8QZI2ZRX5a1X9a2XAaRXOC800RXLaSXP4KIxM4LrB00TZDUQXBmHRSP33Xx0YIZTX6A1991GaMXKaQXMZPX2ZQX3a6
  CaGXCaHAZJDZEVZ8QZI2ZRX5a1X9a2XAaRXOC800RXLaSXPSdAUY4XBY3PX33ZWNZ2ePX6XB1XA91Gi6XKiHXMeGX2eHX3g6
  CgPXChLAdSDdBVcEQdR2eIX5fMX9fNXAj2XOXI800Y5XLj3XPENaUd9SXJ4w3YNBZ1T1eMF758600Z0LlVXJbFXTm0Y95KIi
  U4LZEXhTbH00FZWOdBlDSZWPYNT1ZWQFXfKYB758600XvELZWRYMZWSXJZWTXTZWUYKZWVY9ANY0XJ4YORh9XIBZ1T175860
  0Z0L6KfFiU4LbIxRa0sKb500SZDUQXBXX3b2SP33ZTX6A1991GaMXKaQXMZPX2ZQX3a6CaGXCaHAZJDZEVZ8QZI2ZRX5a1X9
  a2XAaRXOC800RXLaSXP7NY0BZLT1758600XjFLHX2cOZX0SX81ZX1FO5P600ZX2LnQOZX3YMZX4XJZX5XTZX6YSaPYKY2Y9Z
  X7XNZX8bB7NY0BaNT1758600XjGLSZDUQXBZX9YNSP33ZTX6A1991GaMXKaQXMZPX2ZQX3a6CaGXCaHAZJDZEVZ8QZI2ZRX5
  a1X9a2XAaRXOC800RXLaSXP7X2Y0BZLX81O5P600vTL7NY0BZLT1758600XjML7NY0BZLT1758600XjILTdAUY4XBY3PX33Z
  XAYIePX6XB1XA91Gi6XKiHXMeGX2eHX3g6CgPXChLAdSDdBVcEQdR2eIX5fMX9fNXAj2XOXI800Y5XLZXBYJj3XPENaUd9Sj
  SRw4XIBZ1T1eMF758600Z0LlVXJbFXTm0Y9SZDUQXBXWUYNSP33ZTX6A1991GaMXKaQXMZPX2ZQX3a6CaGXCaHAZJDZEVZ8Q
  ZI2ZRX5a1X9a2XAaRXOC800RXLaSXPSZDUQXBXuVYNSP33ZTX6A1991GaMXKaQXMZPX2ZQX3a6CaGXCaHAZJDZEVZ8QZI2ZR
  X5a1X9a2XAaRXOC800RXLaSXP7X2Y0BZLX81O5P600XX4LSdAUY4XBY3PX33XjDZ2ePX6XB1XA91Gi6XKiHXMeGX2eHX3g6C
  gPXChLAdSDdBVcEQdR2eIX5fMX9fNXAj2XOXI800Y5XLj3XP4KIv84LhH004pAIpBrCz2c8007NY0BZLT1758600Xd3L4hFY
  0hGa7BgH00ANY0XJ4YORhBXIBZ1T1758600Z0LSYRUQXBy4c2SP33Z7X6A1991GZSXKZUXMZ1X2Z2X3ZCCZFXCZKAYUDYSVY
  MQYV2Z3X5Z9X9ZAXAa3XOC800RXLa4XP7NY0BZLT1758600Xd4LSYRUQXBXX1c2SP33Z7X6A1991GZSXKZUXMZ1X2Z2X3ZCC
  ZFXCZKAYUDYSVYMQYV2Z3X5Z9X9ZAXAa3XOC800RXLa4XP7NY0BZLT1758600XcPL7NY0BaNT1758600XcQL7NY0BZLT1758
  600Xd5L7NY0BZLT1758600XcRL7NY0BZLT1758600XdCL7NY0BaNT1758600XcSL7NY0BZLT1758600Xd6L7NY0BZLT17586
  00XcTL7NY0BaNT1758600Xd0L7NY0BZLT1758600Xd1L7NY0BaNT1758600Xd2L4pAIpBkQz2Y400ANY0XJ4YORhAXIBZ1T1
  758600Z0L4XWRrDXWSrE00XiVfD4k9IkAhH00mRXQ4k9IkAhH00mSXQANY0XJ4YORvVXIBZ1T1758600Z0L7KZ4LaCnThFnU
  Z500rKX1gIXQ4k9IkAhImRa9004k9IkAhImSa9006kBfFkC4kDbIZXCa0t0b5006vRfFvS4sSbIZXDa0y3b5006j7fFiC4iS
  bIZXEa0t1b500ANY0XJ4YORw0XIBZ1T1758600Z0L7KZ4iU4LgIfEeKfFZ500cRXQ7KZ4LkDc5gAhH9hIGd7h8005KZ4LaCq
  9gArMh800ANY0XJ4YORw1XIBZ1T1758600Z0L6Ka6LeMcRa9fE1fFZ0006Ka6LeMgIa9nT1nUZ0006qBa6qCeMmFa9sT1sUZ
  0006vRIvS4sSZEXiSb2y3X7007j7Z4iC4iSgIq5eKq6Z500k4XQ7kBZ4kC4kDgIq7eKq8Z500l2XQSdAUY4XBY3PX33ZXFZ2
  ePX6XB1XA91Gi6XKiHXMeGX2eHX3g6CgPXChLAdSDdBVcEQdR2eIX5fMX9fNXAj2XOXI800Y5XLj3XPTdAUY4XBY3PX33ZXG
  YIePX6XB1XA91Gi6XKiHXMeGX2eHX3g6CgPXChLAdSDdBVcEQdR2eIX5fMX9fNXAj2XOXI800Y5XLZXHYJj3XPSZDUQXBXX1
  YNSP33ZTX6A1991GaMXKaQXMZPX2ZQX3a6CaGXCaHAZJDZEVZ8QZI2ZRX5a1X9a2XAaRXOC800RXLaSXP7NY0BaNT1758600
  Xd8L7NY0BaNT1758600Xd9L7NY0BaNT1758600XdAL7NY0BaNT1758600XdBL5qDZCqErF33bV200SbPUQXBSP33cFX6n0cC
  A1991GeQXKfOXMc8X2c9X3dCCdTXCeJAc0DbQVb9QbV2cAX5cTX9cUXAg7XOC800RXLg8XPSbPUQXBSP33cFX6n6cCA1991G
  eQXKfOXMc8X2c9X3dCCdTXCeJAc0DbQVb9QbV2cAX5cTX9cUXAg7XOC800RXLg8XPSbPUQXBSP33cFX6qFcCA1991GeQXKfO
  XMc8X2c9X3dCCdTXCeJAc0DbQVb9QbV2cAX5cTX9cUXAg7XOC800RXLg8XPSbPUQXBSP33cFX6n7cCA1991GeQXKfOXMc8X2
  c9X3dCCdTXCeJAc0DbQVb9QbV2cAX5cTX9cUXAg7XOC800RXLg8XPSbPUQXBSP33cFX6n1cCA1991GeQXKfOXMc8X2c9X3dC
  CdTXCeJAc0DbQVb9QbV2cAX5cTX9cUXAg7XOC800RXLg8XPFbPUX6rGX7cU33A1991Gc8X2c9X3c0DbQVb9QbV2C800AX7ZC
  X6rH33A1991Gb9QXdD2C800MbPUX6kRX7P33cFX6A1991Gc8X2c9X3dCCdTXCeJAc0DbQVb9QbV2cAX5cTX9cUXAC800NbPU
  X6rIX7P33cFX6A1991GeQXKc8X2c9X3dCCdTXCeJAc0DbQVb9QbV2cAX5cTX9cUXAC800DbPUX6kSX7cV33A1991Gc0DbQVb
  9QXdD2C800JbPUX6kTX7d033cFX6A1991Gc8X2c9X3c0DbQVb9QbV2cAX5cTX9cUXAC800KbPUX6kTX7bC33cFX6A1991Gc8
  X2c9X3dCCc0DbQVb9QbV2cAX5cTX9cUXAC800LbPUX6kRX7bC33cFX6A1991Gc8X2c9X3dCCdTXCc0DbQVb9QbV2cAX5cTX9
  cUXAC800CbPUX6kSX7d133A1991GbQVb9QXdD2C800DX7bDQXBSP33X6rJA1991Gb9QXdD2C800RXLHbPUX6rKX7d233cFX6
  A1991Gc8X2c9X3c0DbQVb9QbV2cAX5C800ObPUX6rLX7P33cFX6A1991GeQXKfOXMc8X2c9X3dCCdTXCeJAc0DbQVb9QbV2c
  AX5cTX9cUXAC800SbPUQXBSP33cFX6n2cCA1991GeQXKfOXMc8X2c9X3dCCdTXCeJAc0DbQVb9QbV2cAX5cTX9cUXAg7XOC8
  00RXLg8XPSbPUQXBSP33cFX6qGcCA1991GeQXKfOXMc8X2c9X3dCCdTXCeJAc0DbQVb9QbV2cAX5cTX9cUXAg7XOC800RXLg
  8XPSbPUQXBSP33cFX6n3cCA1991GeQXKfOXMc8X2c9X3dCCdTXCeJAc0DbQVb9QbV2cAX5cTX9cUXAg7XOC800RXLg8XPSbP
  UQXBSP33cFX6n4cCA1991GeQXKfOXMc8X2c9X3dCCdTXCeJAc0DbQVb9QbV2cAX5cTX9cUXAg7XOC800RXLg8XPSbPUQXBSP
  33cFX6n5cCA1991GeQXKfOXMc8X2c9X3dCCdTXCeJAc0DbQVb9QbV2cAX5cTX9cUXAg7XOC800RXLg8XPSbPUQXBSP33cFX6
  qHcCA1991GeQXKfOXMc8X2c9X3dCCdTXCeJAc0DbQVb9QbV2cAX5cTX9cUXAg7XOC800RXLg8XPSbPUQXBSP33cFX6qIcCA1
  991GeQXKfOXMc8X2c9X3dCCdTXCeJAc0DbQVb9QbV2cAX5cTX9cUXAg7XOC800RXLg8XPSbPUQXBSP33cFX6qJcCA1991GeQ
  XKfOXMc8X2c9X3dCCdTXCeJAc0DbQVb9QbV2cAX5cTX9cUXAg7XOC800RXLg8XP5qDZCqErM33fP200SeRUQXBSP33gQX6A1
  n0cD991GjAXKjTXMg9X2gAX3i7CiIXCj4AfQDeSVdUQfP2gBX5hMX9hNXAkGXOC800RXLkHXPSeRUQXBSP33gQX6A1n6cD99
  1GjAXKjTXMg9X2gAX3i7CiIXCj4AfQDeSVdUQfP2gBX5hMX9hNXAkGXOC800RXLkHXPSeRUQXBSP33gQX6A1qFcD991GjAXK
  jTXMg9X2gAX3i7CiIXCj4AfQDeSVdUQfP2gBX5hMX9hNXAkGXOC800RXLkHXPSeRUQXBSP33gQX6A1n7cD991GjAXKjTXMg9
  X2gAX3i7CiIXCj4AfQDeSVdUQfP2gBX5hMX9hNXAkGXOC800RXLkHXPSeRUQXBSP33gQX6A1n1cD991GjAXKjTXMg9X2gAX3
  i7CiIXCj4AfQDeSVdUQfP2gBX5hMX9hNXAkGXOC800RXLkHXPFeRUX6rNX7cU33A1991Gg9X2gAX3fQDeSVdUQfP2C800AX7
  ZCX6rO33A1991GdUQXdE2C800MeRUX6kUX7P33gQX6A1991Gg9X2gAX3i7CiIXCj4AfQDeSVdUQfP2gBX5hMX9hNXAC800Ne
  RUX6rPX7P33gQX6A1991GjAXKg9X2gAX3i7CiIXCj4AfQDeSVdUQfP2gBX5hMX9hNXAC800DeRUX6kVX7cV33A1991GfQDeS
  VdUQXdE2C800JeRUX6l0X7d033gQX6A1991Gg9X2gAX3fQDeSVdUQfP2gBX5hMX9hNXAC800KeRUX6l0X7bC33gQX6A1991G
  g9X2gAX3i7CfQDeSVdUQfP2gBX5hMX9hNXAC800LeRUX6kUX7bC33gQX6A1991Gg9X2gAX3i7CiIXCfQDeSVdUQfP2gBX5hM
  X9hNXAC800CeRUX6kVX7d133A1991GeSVdUQXdE2C800DX7bDQXBSP33A1X6rQ991GdUQXdE2C800RXLHeRUX6rRX7d233gQ
  X6A1991Gg9X2gAX3fQDeSVdUQfP2gBX5C800OeRUX6rSX7P33gQX6A1991GjAXKjTXMg9X2gAX3i7CiIXCj4AfQDeSVdUQfP
  2gBX5hMX9hNXAC800SeRUQXBSP33gQX6A1n2cD991GjAXKjTXMg9X2gAX3i7CiIXCj4AfQDeSVdUQfP2gBX5hMX9hNXAkGXO
  C800RXLkHXPSeRUQXBSP33gQX6A1qGcD991GjAXKjTXMg9X2gAX3i7CiIXCj4AfQDeSVdUQfP2gBX5hMX9hNXAkGXOC800RX
  LkHXPSeRUQXBSP33gQX6A1n3cD991GjAXKjTXMg9X2gAX3i7CiIXCj4AfQDeSVdUQfP2gBX5hMX9hNXAkGXOC800RXLkHXPS
  eRUQXBSP33gQX6A1n4cD991GjAXKjTXMg9X2gAX3i7CiIXCj4AfQDeSVdUQfP2gBX5hMX9hNXAkGXOC800RXLkHXPSeRUQXB
  SP33gQX6A1n5cD991GjAXKjTXMg9X2gAX3i7CiIXCj4AfQDeSVdUQfP2gBX5hMX9hNXAkGXOC800RXLkHXPSeRUQXBSP33gQ
  X6A1qHcD991GjAXKjTXMg9X2gAX3i7CiIXCj4AfQDeSVdUQfP2gBX5hMX9hNXAkGXOC800RXLkHXPSeRUQXBSP33gQX6A1qI
  cD991GjAXKjTXMg9X2gAX3i7CiIXCj4AfQDeSVdUQfP2gBX5hMX9hNXAkGXOC800RXLkHXPSeRUQXBSP33gQX6A1qJcD991G
  jAXKjTXMg9X2gAX3i7CiIXCj4AfQDeSVdUQfP2gBX5hMX9hNXAkGXOC800RXLkHXPSYRUQXBXv7c2SP33Z7X6A1991GZSXKZ
  UXMZ1X2Z2X3ZCCZFXCZKAYUDYSVYMQYV2Z3X5Z9X9ZAXAa3XOC800RXLa4XPSYRUQXBXX3c2SP33Z7X6A1991GZSXKZUXMZ1
  X2Z2X3ZCCZFXCZKAYUDYSVYMQYV2Z3X5Z9X9ZAXAa3XOC800RXLa4XP9qKZCqLrT33A1991GZXI2C800CqMbDQXBSP33qNrU
  A1991GZXJ2C800RXLSbPUQXBSP33cFX6qOcCA1991GeQXKfOXMc8X2c9X3dCCdTXCeJAc0DbQVb9QbV2cAX5cTX9cUXAg7XO
  C800RXLg8XP8qPZCqQrV33A1991GZXK2009qKZCqLs033A1991GZXL2C800CqMbDQXBSP33A1qNs1991GZXM2C800RXLSeRU
  QXBSP33gQX6A1qOcD991GjAXKjTXMg9X2gAX3i7CiIXCj4AfQDeSVdUQfP2gBX5hMX9hNXAkGXOC800RXLkHXP8qPZCqQs23
  3A1991GZXN2005KIv64LZEmPbH007Ka6xP4Ls3cRa9fE1fFZ0005qDZCqEs433gC200SfRUQXBSP33hOX6n0cEA1991GjUXK
  kIXMgRX2gSX3iJCj5XCjBAgDDfSVeKQgC2gTX5i8X9i9XAl7XOC800RXLl8XPSfRUQXBSP33hOX6n6cEA1991GjUXKkIXMgR
  X2gSX3iJCj5XCjBAgDDfSVeKQgC2gTX5i8X9i9XAl7XOC800RXLl8XPSfRUQXBSP33hOX6qFcEA1991GjUXKkIXMgRX2gSX3
  iJCj5XCjBAgDDfSVeKQgC2gTX5i8X9i9XAl7XOC800RXLl8XPSfRUQXBSP33hOX6n7cEA1991GjUXKkIXMgRX2gSX3iJCj5X
  CjBAgDDfSVeKQgC2gTX5i8X9i9XAl7XOC800RXLl8XPSfRUQXBSP33hOX6n1cEA1991GjUXKkIXMgRX2gSX3iJCj5XCjBAgD
  DfSVeKQgC2gTX5i8X9i9XAl7XOC800RXLl8XPFfRUX6s5X7cU33A1991GgRX2gSX3gDDfSVeKQgC2C800AX7ZCX6s633A199
  1GeKQXdF2C800MfRUX6l1X7P33hOX6A1991GgRX2gSX3iJCj5XCjBAgDDfSVeKQgC2gTX5i8X9i9XAC800NfRUX6s7X7P33h
  OX6A1991GjUXKgRX2gSX3iJCj5XCjBAgDDfSVeKQgC2gTX5i8X9i9XAC800DfRUX6l2X7cV33A1991GgDDfSVeKQXdF2C800
  JfRUX6l3X7d033hOX6A1991GgRX2gSX3gDDfSVeKQgC2gTX5i8X9i9XAC800KfRUX6l3X7bC33hOX6A1991GgRX2gSX3iJCg
  DDfSVeKQgC2gTX5i8X9i9XAC800LfRUX6l1X7bC33hOX6A1991GgRX2gSX3iJCj5XCgDDfSVeKQgC2gTX5i8X9i9XAC800Cf
  RUX6l2X7d133A1991GfSVeKQXdF2C800DX7bDQXBSP33X6s8A1991GeKQXdF2C800RXLHfRUX6s9X7d233hOX6A1991GgRX2
  gSX3gDDfSVeKQgC2gTX5C800OfRUX6sAX7P33hOX6A1991GjUXKkIXMgRX2gSX3iJCj5XCjBAgDDfSVeKQgC2gTX5i8X9i9X
  AC800SfRUQXBSP33hOX6n2cEA1991GjUXKkIXMgRX2gSX3iJCj5XCjBAgDDfSVeKQgC2gTX5i8X9i9XAl7XOC800RXLl8XPS
  fRUQXBSP33hOX6qGcEA1991GjUXKkIXMgRX2gSX3iJCj5XCjBAgDDfSVeKQgC2gTX5i8X9i9XAl7XOC800RXLl8XPSfRUQXB
  SP33hOX6n3cEA1991GjUXKkIXMgRX2gSX3iJCj5XCjBAgDDfSVeKQgC2gTX5i8X9i9XAl7XOC800RXLl8XPSfRUQXBSP33hO
  X6n4cEA1991GjUXKkIXMgRX2gSX3iJCj5XCjBAgDDfSVeKQgC2gTX5i8X9i9XAl7XOC800RXLl8XPSfRUQXBSP33hOX6n5cE
  A1991GjUXKkIXMgRX2gSX3iJCj5XCjBAgDDfSVeKQgC2gTX5i8X9i9XAl7XOC800RXLl8XPSfRUQXBSP33hOX6qHcEA1991G
  jUXKkIXMgRX2gSX3iJCj5XCjBAgDDfSVeKQgC2gTX5i8X9i9XAl7XOC800RXLl8XPSfRUQXBSP33hOX6qIcEA1991GjUXKkI
  XMgRX2gSX3iJCj5XCjBAgDDfSVeKQgC2gTX5i8X9i9XAl7XOC800RXLl8XPSfRUQXBSP33hOX6qJcEA1991GjUXKkIXMgRX2
  gSX3iJCj5XCjBAgDDfSVeKQgC2gTX5i8X9i9XAl7XOC800RXLl8XP9qKZCqLsB33A1991GZXO2C800CqMbDQXBSP33qNsCA1
  991GZXP2C800RXLSfRUQXBSP33hOX6qOcEA1991GjUXKkIXMgRX2gSX3iJCj5XCjBAgDDfSVeKQgC2gTX5i8X9i9XAl7XOC8
  00RXLl8XP8qPZCqQsD33A1991GZXQ2007Ka6sI4LsEcRa9fE1fFZ0004KIxO4LsF007Ka6xQ4LsGcRa9fE1fFZ000BNZUd9S
  XJ4w3YNBZ1T1758600Z0LbFXTCNZRd9SXJ4w3YNBZ1T1eMF758600Z0LbFXTSbPUQXBSP33cFX6ZXRX7A1991GeQXKfOXMc8
  X2c9X3dCCdTXCeJAc0DbQVb9QbV2cAX5cTX9cUXAg7XOC800RXLg8XPSeRUQXBSP33gQX6A1ZXSXR991GjAXKjTXMg9X2gAX
  3i7CiIXCj4AfQDeSVdUQfP2gBX5hMX9hNXAkGXOC800RXLkHXPDNaUd9Sw5YNBZ1T1eMF758600Z0LlVXJbFXTm0Y94ZXTIZ
  XUZEXiKZS009X2fGBaVX81O5P600vTLXjNXJY2Y98X2Y0BaVX81O5P600vTLXc9XN5XaHIXaIl4ZXVhE3300BNZUd9SjSRw4
  XIBZ1T1758600Z0LbFXTCNZRd9SjSRw4XIBZ1T1eMF758600Z0LbFXT4ZY0IZY1ZEx6ZS004ZY2IZY3ZEXiNZS004ZY4IZY5
  ZEXiOZS009X2fGBaVX81O5P600XX4LXx1XJY2Y98X2Y0BaVX81O5P600XX4LZY6XN9X2fGBaVX81O5P600ZY7LZY8XJY2Y98
  X2Y0BaVX81O5P600ZY9LZYAXN4ZYBIZYCZEx7ZS004ZYDIZYEZEx8ZS004ZYFIZYGZEXiPZS009X2fGBaVX81O5P600ZYHLZ
  YIXJY2Y98X2Y0BaVX81O5P600ZYJLZYKXN9X2fGBaVX81O5P600ZYLLZYMXJY2Y98X2Y0BaVX81O5P600ZYNLZYOXN4ZYPIZ
  YQZEx9ZS006hVY0i0a7XJ4rJYNBZH006hFY0hGa7XJ4rJYNBZH006KIXaD4LZEl1RmPXR007Ka6dP4LaCcRa9fE1fFZ000Tf
  RUQXBSP33ZYRa0XX1b5A1991GjUXKkIXMgRX2gSX3iJCj5XCjBAgDDfSVeKQgC2gTX5i8X9i9XAhOa4l7XOC800RXLl8XP6K
  Z4LaCgIc4nT1nUZ5006kBIkC4kDZEt0RXiRXR006vRIvS4sSZEy3RXiSXR006j7IiC4iSZEt1RXiTXR003-MhJv3hK003-Nh
  Jv4hK003-OhJv5hK006KZ4LgInTeKnUZ500gIXQ4k9IkAhLmRa9004k9IkAhLmSa9006KZ4LaCcRc4fE1fFZ5006qBZ4qCaC
  mFc4sT1sUZ500SbPUQXBSP33cFX6ZYSX7A1991GeQXKfOXMc8X2c9X3dCCdTXCeJAc0DbQVb9QbV2cAX5cTX9cUXAg7XOC80
  0RXLg8XPSeRUQXBSP33gQX6A1ZYTXR991GjAXKjTXMg9X2gAX3i7CiIXCj4AfQDeSVdUQfP2gBX5hMX9hNXAkGXOC800RXLk
  HXP5qDZCqEsH33fT200SeTUQXBSP33gUX6A1991GjCXKjVXMgEX2gFX3iACiKXCj6AfUDeUVdVQfT2gGX5hPX9hQXAkJXOC8
  00n0KRXLkKXPSeTUQXBSP33gUX6A1991GjCXKjVXMgEX2gFX3iACiKXCj6AfUDeUVdVQfT2gGX5hPX9hQXAkJXOC800n6KRX
  LkKXPSeTUQXBSP33gUX6A1991GjCXKjVXMgEX2gFX3iACiKXCj6AfUDeUVdVQfT2gGX5hPX9hQXAkJXOC800qFKRXLkKXPSe
  TUQXBSP33gUX6A1991GjCXKjVXMgEX2gFX3iACiKXCj6AfUDeUVdVQfT2gGX5hPX9hQXAkJXOC800n7KRXLkKXPSeTUQXBSP
  33gUX6A1991GjCXKjVXMgEX2gFX3iACiKXCj6AfUDeUVdVQfT2gGX5hPX9hQXAkJXOC800n1KRXLkKXPFeTUX6sIX7cU33A1
  991GgEX2gFX3fUDeUVdVQfT2C800AX7ZCX6sJ33A1991GdVQXdG2C800MeTUX6l5X7P33gUX6A1991GgEX2gFX3iACiKXCj6
  AfUDeUVdVQfT2gGX5hPX9hQXAC800NeTUX6sKX7P33gUX6A1991GjCXKgEX2gFX3iACiKXCj6AfUDeUVdVQfT2gGX5hPX9hQ
  XAC800DeTUX6l6X7cV33A1991GfUDeUVdVQXdG2C800JeTUX6l7X7d033gUX6A1991GgEX2gFX3fUDeUVdVQfT2gGX5hPX9h
  QXAC800KeTUX6l7X7bC33gUX6A1991GgEX2gFX3iACfUDeUVdVQfT2gGX5hPX9hQXAC800LeTUX6l5X7bC33gUX6A1991GgE
  X2gFX3iACiKXCfUDeUVdVQfT2gGX5hPX9hQXAC800CeTUX6l6X7d133A1991GeUVdVQXdG2C800DX7bDQXBSP33A1991GX6s
  LdVQXdG2C800RXLHeTUX6sMX7d233gUX6A1991GgEX2gFX3fUDeUVdVQfT2gGX5C800OeTUX6sNX7P33gUX6A1991GjCXKjV
  XMgEX2gFX3iACiKXCj6AfUDeUVdVQfT2gGX5hPX9hQXAC800SeTUQXBSP33gUX6A1991GjCXKjVXMgEX2gFX3iACiKXCj6Af
  UDeUVdVQfT2gGX5hPX9hQXAkJXOC800n2KRXLkKXPSeTUQXBSP33gUX6A1991GjCXKjVXMgEX2gFX3iACiKXCj6AfUDeUVdV
  QfT2gGX5hPX9hQXAkJXOC800qGKRXLkKXPSeTUQXBSP33gUX6A1991GjCXKjVXMgEX2gFX3iACiKXCj6AfUDeUVdVQfT2gGX
  5hPX9hQXAkJXOC800n3KRXLkKXPSeTUQXBSP33gUX6A1991GjCXKjVXMgEX2gFX3iACiKXCj6AfUDeUVdVQfT2gGX5hPX9hQ
  XAkJXOC800n4KRXLkKXPSeTUQXBSP33gUX6A1991GjCXKjVXMgEX2gFX3iACiKXCj6AfUDeUVdVQfT2gGX5hPX9hQXAkJXOC
  800n5KRXLkKXPSeTUQXBSP33gUX6A1991GjCXKjVXMgEX2gFX3iACiKXCj6AfUDeUVdVQfT2gGX5hPX9hQXAkJXOC800qHKR
  XLkKXPSeTUQXBSP33gUX6A1991GjCXKjVXMgEX2gFX3iACiKXCj6AfUDeUVdVQfT2gGX5hPX9hQXAkJXOC800qIKRXLkKXPS
  eTUQXBSP33gUX6A1991GjCXKjVXMgEX2gFX3iACiKXCj6AfUDeUVdVQfT2gGX5hPX9hQXAkJXOC800qJKRXLkKXPSbPUQXBS
  P33cFX6ZYUX7A1991GeQXKfOXMc8X2c9X3dCCdTXCeJAc0DbQVb9QbV2cAX5cTX9cUXAg7XOC800RXLg8XP9qKZCqLsO33A1
  991GZYV2C800CqMbDQXBSP33A1991GqNsPZZ02C800RXLSeTUQXBSP33gUX6A1991GjCXKjVXMgEX2gFX3iACiKXCj6AfUDe
  UVdVQfT2gGX5hPX9hQXAkJXOC800qOKRXLkKXP8qPZCqQsQ33A1991GZZ1200SbPUQXBSP33cFX6ZZ2X7A1991GeQXKfOXMc
  8X2c9X3dCCdTXCeJAc0DbQVb9QbV2cAX5cTX9cUXAg7XOC800RXLg8XPSbPUQXBSP33cFX6ZZ3X7A1991GeQXKfOXMc8X2c9
  X3dCCdTXCeJAc0DbQVb9QbV2cAX5cTX9cUXAg7XOC800RXLg8XPSbPUQXBSP33cFX6ZZ4X7A1991GeQXKfOXMc8X2c9X3dCC
  dTXCeJAc0DbQVb9QbV2cAX5cTX9cUXAg7XOC800RXLg8XPSbPUQXBSP33cFX6ZZ5X7A1991GeQXKfOXMc8X2c9X3dCCdTXCe
  JAc0DbQVb9QbV2cAX5cTX9cUXAg7XOC800RXLg8XPSbPUQXBSP33cFX6ZZ6X7A1991GeQXKfOXMc8X2c9X3dCCdTXCeJAc0D
  bQVb9QbV2cAX5cTX9cUXAg7XOC800RXLg8XP4KIxN4LhI00SbPUQXBSP33cFX6ZZ7X7A1991GeQXKfOXMc8X2c9X3dCCdTXC
  eJAc0DbQVb9QbV2cAX5cTX9cUXAg7XOC800RXLg8XPSbPUQXBSP33cFX6ZZ8X7A1991GeQXKfOXMc8X2c9X3dCCdTXCeJAc0
  DbQVb9QbV2cAX5cTX9cUXAg7XOC800RXLg8XPReTUQXBY3PX33gUX6XB1XA91GjCXKjVXMgEX2gFX3iACiKXCj6AfUDeUVdV
  QfT2gGX5hPX9hQXAkJXOC800RXLkKXP9NY0XJ4w3YNBZ1T1758600Z0L7hVY0i0a7XJ4YORh9XIBZ1007hFY0hGa7XJ4YORh
  9XIBZ100ANZUd9Sw5YNBZ1T1758600Z0LbFXTBNZRd9Sw5YNBZ1T1eMF758600Z0LbFXT9NY0jSRw4XIBZ1T1758600Z0L7X
  2Y0BaVX81O5P600ZZ9L7X2Y0BaVX81O5P600XjOL7X2Y0BaVX81O5P600ZZAL7X2Y0BaVX81O5P600ZZBL7X2Y0BaVX81O5P
  600ZZCL7X2Y0BaVX81O5P600ZZDL7X2Y0BaVX81O5P600ZZEL7X2Y0BaVX81O5P600ZZFL7X2Y0BaVX81O5P600ZZGL7X2Y0
  BaVX81O5P600ZZHL7X2Y0BaVX81O5P600ZZIL7X2Y0BaVX81O5P600ZZJL7X2Y0BaVX81O5P600ZZKL7X2Y0BaVX81O5P600
  ZZLL7X2Y0BaVX81O5P600ZZML7X2Y0BaVX81O5P600ZZNL7hVY0i0a7XJ4YORhBXIBZ1007hFY0hGa7XJ4YORhBXIBZ1007h
  VY0i0a7XJ4YORhAXIBZ1007hFY0hGa7XJ4YORhAXIBZ1007hVY0i0a7XJ4YORvVXIBZ1007hFY0hGa7XJ4YORvVXIBZ1007h
  VY0i0a7XJ4YORw0XIBZ1007hFY0hGa7XJ4YORw0XIBZ1004XWRkKXWSsR00XiVfD7hVY0i0a7XJ4YORw1XIBZ1007hFY0hGa
  7XJ4YORw1XIBZ100ReTUQXBSP33gUX6A1991GjCXKjVXMgEX2gFX3iACiKXCj6AfUDeUVdVQfT2gGX5hPX9hQXAkJXOC800R
  XLkKXP6KfFdP4LZExRa0sKb5004KIxP4LsS004KIsI4LhL004KIxQ4LgE004KIXhV4LZE005ZZOa2ZZPl8ZZQYI00XjPYJ8N
  Y0w5YNBZ1T1758600Z0L5ZZRa2ZZSl8ZZTYI00ZZUYJ6Xa6a2Xa7eNXdH3ZZV9f52003Za0a2Xx2bJ003Za1a2Xx3bJ003Za
  2a2Xx4bJ003Za3a2Xx5bJ003Za4a2Xx6bJ003Za5a2Xx7bJ003Za6a2Xx8bJ003Za7a2Xx9bJ003Za8a2XxAbJ003Za9a2Xx
  BbJ003ZaAa2XxCbJ003ZaBa2XxDbJ003ZaCa2XxEbJ003ZaDa2XxFbJ004lIa2lHd300ZaEYJ4p4a2nMd300ZaFYJ3lIa2lH
  bJ004p4a2nMd300ZaGYJ3uTa2uSbJ004KIXi04LZE004pAIpBkQ00Y6K4lIa2lHd300ZaHYJ4KIXi14LZE004KIXi24LZE00
  4KIXi34LZE004KIXi44LZE004KIXi54LZE004KIXi64LZE004KIXi74LZE004KIXi84LZE006hVY0i0a7XJ4w3YNBZ1006hF
  Y0hGa7XJ4w3YNBZ100CNaUXdISBZVT1XjQF758600w6LXxGXJXdJXTm0Y93ZaIa2ZaJd3003ZaKa2ZaLd3006hVY0i0a7jSR
  w4XIBZ1006hFY0hGa7jSRw4XIBZ1003ZaMa2ZaNd3003ZaOa2ZaPd3003lIa2lHd3003uTa2uSd3004XaHIXaIl4X33008NY
  0BZVT1XjRE758600w6L9NZUXdISBZVT1758600w6LXdJXTANZRXdISBZVT1XjQF758600w6LXdJXTFX2l9XWQSX81Xc4FO5P
  600Xc5LZaQYMZaRXJXc6XTZaSYSY2Y9ZaTXNXiQbB9NZUXjSSBZVT1758600XX5LXjTXTANZRXjSSBZVT1XxHF758600XX5L
  XjTXT5hVY0i0a7w5YNBZ1005hFY0hGa7w5YNBZ100FX2l9XX0SX81XcJFO5P600ZaULZaVYMZb0XJXcKXTZb1YSY2Y9Zb2XN
  Zb3bB9NZUXxISBZVT1758600XdKLXxJXTANZRXxISBZVT1Zb4F758600XdKLXxJXT9NZUZb5SBZVT1758600XjULZb6XT3Xr
  MsTXrNsU007NY0BZVT1758600w6L7NY0BZVT1758600XX5L7NY0BZVT1758600XcPLBX2gGX81O5P600vTLXuKYMXuLXJY2Y
  9XuMXNXc9bB7NY0BZVT1758600XcQL7NY0BZVT1758600XdKL7NY0BZVT1758600XcRL7NY0BZVT1758600XdCLBX2gGX81O
  5P600Zb7LZb8YMZb9XJY2Y9ZbAXNZbBbB7NY0BZVT1758600XcSL7NY0BZVT1758600XjUL7NY0BZVT1758600XcTL7NY0BZ
  VT1758600XxKL7NY0BZVT1758600Xd0L7NY0BZVT1758600XxLL7NY0BZVT1758600Xd1L7NY0BZVT1758600Xd2L7NY0BZV
  T1758600XxML7NY0BZVT1758600XxNL4XhQa2XhRa700ZbCO7NY0BZVT1758600Xd8L7NY0BZVT1758600Xd9L7NY0BZVT17
  58600XdAL7NY0BZVT1758600XdBL7NY0BZVT1758600XxOL7NY0BZVT1758600Xd3L7NY0BZVT1758600Xd4L7NY0BZVT175
  8600Xd5L7NY0BZVT1758600Xd6L7NY0BZVT1758600XxPLHr7YUr8MlJX8lLZ6lMZ7lNY3lOX4lPFlQT002OlRYSv1ZAlSXN
  v2d6lTZBlUZ8CNhMd9ST1eMF758600Z0LZbDYMlVXJbFXTm0Y9HZbEbFr7YUr8MlJX8lLZ6lMZ7lNY3lOX4lPFlQT002OlRY
  SuVZAlSXNlTZBlUZ8AX2lAZbFSX81O5P600ZbGLZbHXJZbIXTY2Y9CX2hMXWTSX81XcCFO5P600XcDLZbJYMXj3XJXcEXTY2
  Y97NY0ZbKXIT1758600ZbLLAX2lAXxQSX81O5P600ZbMLXjNXJZbNXTY2Y9CX2hMiESX81m5FO5P600m6LZbOYMsRXJm7XTY
  2Y97NY0ZbPXIT1758600rOL7NY0ZbQXIT1758600rOL7NY0ZbRXIT1758600rOL7NY0ZbSXIT1758600rOLHXg0YUXg1MpDX
  8pEZ6pFZ7pGY3pHX4pIFpJT002OpKYSXnUZApLXNXnVd6pMZBpNZ8HZbTbFr7YUr8MlJX8lLZ6lMZ7lNY3lOX4lPFlQT002O
  lRYSuVZAlSXNlTZBlUZ87NY0ZbUXIT1758600ZbVL7NY0Zc0XIT1758600rOL7NY0Zc1XIT1758600rOL7NY0Zc2XIT17586
  00rOL7NY0Zc3XIT1758600rOLHZc4bFXg0YUXg1MpDX8pEZ6pFZ7pGY3pHX4pIFpJT002OpKYSsLZApLXNpMZBpNZ8ANbKd9
  ST1eMF758600Z0LlVXJbFXT4hFY0hGa7BZV00ANbKXdIST1XjQF758600w6LXxGXJXdJXTAX2bKXWQSX81Xc4FO5P600Xc5L
  XuEXJXc6XTAX2bKXWTSX81XcCFO5P600XcDLXj3XJXcEXTANbKXjSST1XxHF758600XX5LZc5XJXjTXTAX2bKXWVSX81XcGF
  O5P600XcHLXv0XJXcIXT8NZUXxQST1758600XjMLZc6XTAX2bKXX0SX81XcJFO5P600Zc7LZc8XJXcKXTAX2bKXcLSX81Xj6
  FO5P600Xj7LXv1XJXj8XTAX2bKiESX81m5FO5P600m6LsRXJm7XTAX2bKXjJSX81XvQFO5P600XvRLZc9XJXvSXT8NZUZcAS
  T1758600XdCLZcBXTAX2bKvUSX81y5FO5P600ZcCLZcDXJy6XTAX2bKvUSX81y5FO5P600ZcELZcFXJy6XTAX2bKXjKSX81X
  vTFO5P600XvULZcGXJXvVXTAX2bKXcMSX81XjAFO5P600XjBLXv3XJXjCXTAX2bKXX2SX81XcUFO5P600ZcHLZcIXJXcVXTA
  X2bKXjLSX81Xw6FO5P600Xw7LZcJXJXw8XT6NY0T1758600rOL3XrSa2XrTeN003Xa6a2Xa7eN003XrOa2XrPeN003XrUa2X
  rVeN003XrQa2XrReN006NY0T1758600Z0L6NY0T1758600w6L6NY0T1758600XjFL6X2Y0X81O5P600XuFL6NY0T1758600X
  jGL6NY0T1758600XX5L6NY0T1758600XcPL6X2Y0X81O5P600vTL7X2cFX81O5P600vTLXjNXJ6NY0T1758600XjML7X2cFX
  81O5P600ZcKLZcLXJ6X2Y0X81O5P600ZcML6NY0T1758600XcQL6NY0T1758600XdKL6NY0T1758600XcRL7X2cFX81O5P60
  0XX4LXx1XJ6X2Y0X81O5P600XX4L6NY0T1758600XdCL6X2Y0X81O5P600ZcNL7X2cFX81O5P600ZcOLZcPXJ6X2Y0X81O5P
  600ZcQL7X2cFX81O5P600ZcRLZcSXJ7X2cFX81O5P600ZcTLZcUXJ6X2Y0X81O5P600ZcVL6NY0T1758600XcSL6NY0T1758
  600XjUL6NY0T1758600XcTL7X2cFX81O5P600XjOLZd0XJ6X2Y0X81O5P600XjOL6NY0T1758600XxKL7X2cFX81O5P600Zd
  1LZd2XJ6X2Y0X81O5P600Zd3L7X2cFX81O5P600Zd4LZd5XJ6X2Y0X81O5P600Zd6L7X2cFX81O5P600Zd7LZd8XJ6X2Y0X8
  1O5P600Zd9L7X2cFX81O5P600ZdALZdBXJ6X2Y0X81O5P600ZdCL7X2cFX81O5P600ZdDLZdEXJ6NY0T1758600Xd0L6NY0T
  1758600XxLL6NY0T1758600Xd1L7X2cFX81O5P600ZdFLZdGXJ6X2Y0X81O5P600ZdHL7X2cFX81O5P600ZdILZdJXJ6X2Y0
  X81O5P600ZdKL6NY0T1758600Xd2L6NY0T1758600XxML6NY0T1758600XxNL6NY0T1758600mGL6NY0T1758600Xd8L6NY0
  T1758600Xd9L6NY0T1758600XdAL6NY0T1758600XdBL6NY0T1758600XxOL6NY0T1758600XjIL6NY0T1758600Xd3L6NY0
  T1758600Xd4L6NY0T1758600Xd5L6NY0T1758600Xd6L6NY0T1758600XxPL3ZdL7ZdMZI007d7ZKc5dLeN3hH9hIGf52007
  XaEZKxTdLeN3XxR9XxSGf52007XaFZKxUdLeN3XxT9XxUGf52003XbDZKXW3bL003XbEZKXW4bL003XbFZKXW5bL003XbGZK
  XW6bL003XbHZKXW7bL003XbIZKXW8bL003XbJZKXW9bL003XbKZKXWAbL003XbOZKXWEbL003XbPZKXWFbL003XbQZKXWGbL
  003XbRZKXWHbL003XbVZKXWLbL003Xc0ZKXWMbL003Xc1ZKXWNbL003Xc2ZKXWObL00AZdN7XdLSZdOYUXdMBZdPYEy7fHXd
  N9O5P6005sM4c6lBw79f52005d7ZKc5lChH9hIG005XaOZK_BlCZdQ9ZdRG006sM4c6dLw79f5200XjVa53_7ZKmShN003Xa
  VZK_MhN003Xb1ZK_OhN004qA4mTlDr49003_14mNeO003_24mOeO004qA4mTlDr59003Xb64_TeO003Xb74_UeO003Xb84_V
  eO003Xb94XW0eO003uQlE-5A003uRlE-8A007c5ZGsG3Xa49Xa5Gd7At22007xTZGsG3ZdS9ZdTGXaEAt22007xUZGsG3ZdU
  9ZdVGXaFAt22003k34bSlF004mE4i1lBf52005_44q3dLeN3XdO9004_94sPaAXxV9003XaG4_5lF003_64mRlG003XaU4_K
  lG002Ze0H003XaM4_8aA003xV4cRaA003rK4gIaA003nS4jPaA004nS4jPlHXdP1003mE4i1aA003XaN4_AaA003XaP4_CaA
  003_D4l2aA003XaQ4_EaA003rM4q9aA003_F4mFaA003_G4y0aA005XiC4_HsVXdP1jPdM004XaT4_IlHXdP1003_J4y1aA0
  03_L4sQaA003Xb04_NaA003Xb24_PaA003Xb34_QaA003Xb44_RaA003Xb54_SaA003vJ4mUaA003XbA4XW1aA003XbC4XW2
  aA003sN4mQaA006iLYH758600Ze1NiMY86iLYH758600Ze2NiMY86iLYH758600Ze3NiMY86iLYH758600Ze4NiMY83XbL4X
  WBaA003XbM4XWCaA003XbN4XWDaA003vM4mVaA003XbS4XWIaA003XbT4XWJaA003XbU4XWKaA003Xc34XWPaA006c6ZGXy0
  9sMAt2200Xk0a53XW3bMXbDA003XW4bMXbEA003XW5bMXbFA003XW6bMXbGA003XW7bMXbHA003XW8bMXbIA003XW9bMXbJA
  003XWAbMXbKA003XWEbMXbOA003XWFbMXbPA003XWGbMXbQA003XWHbMXbRA003XWLbMXbVA003XWMbMXc0A003XWNbMXc1A
  003XWObMXc2A006c5ZDw83Xy19Xy2Gw92006xTZDw83Ze59Ze6Gw92006xUZDw83Ze79Ze8Gw92002Ze9H006iLYH758600Z
  eANiMY86iLYH758600ZeBNiMY86iLYH758600ZeCNiMY86iLYH758600ZeDNiMY82ZeEH006iLYH758600ZeFNiMY86iLYH7
  58600ZeGNiMY86iLYH758600ZeHNiMY86iLYH758600ZeINiMY82ZeJH006iLYH758600ZeKNiMY86iLYH758600ZeLNiMY8
  6iLYH758600ZeMNiMY86iLYH758600ZeNNiMY82ZeOH006iLYH758600ZePNiMY86iLYH758600ZeQNiMY86iLYH758600Ze
  RNiMY86iLYH758600ZeSNiMY82ZeTH002ZeUH002ZeVH002Zf0H002Zf1H009Xy37XdLSy8YUXdMBXdQRZf2bNO5P6008X44
  Zf3XSZf4PjD3X5X7F200Zf5X14rK4gIdL00XjVa54Zf6e9XMYH00XLY84mE4i1dL00Xy4a58X44Xk1XSXk2PjD3X5X7F200Z
  f7X18X44Xk1XSXk2PXP3X5X7F200Zf8X18X44Zf9XSZfAPYD3X5X7F200ZfBX17XJ4ZORrEXIXP3BePF2004sN4mQdL00XjV
  a58X44Xk3XSXk4PjD3X5X7F200ZfCX18X44Xk3XSXk4PXP3X5X7F200ZfDX18X44wAXSZfEPYD3X5X7F200ZfFX18X44wAXS
  ZfGPYD3X5X7F200ZfHX18X44wAXSZfIPYD3X5X7F200ZfJX18X44wAXSZfKPYD3X5X7F200ZfLX18X44Xy5XSXy6PjD3X5X7
  F200ZfMX18X44k0XSZfNPYD3X5X7F200ZfOX18X44k0XSZfPPYD3X5X7F200ZfQX18X44k0XSZfRPYD3X5X7F200ZfSX18X4
  4k0XSZfTPYD3X5X7F200ZfUX18X44k0XSZfVPYD3X5X7F200Zg0X18X44k0XSZg1PYD3X5X7F200Zg2X18X44Xy7XSXy8PjD
  3X5X7F200Zg3X18X44iBXSZg4PYD3X5X7F200Zg5X18X44iBXSZg6PYD3X5X7F200Zg7X18X44iBXSZg8PYD3X5X7F200Zg9
  X18X44iBXSZgAPYD3X5X7F200ZgBX18X44n8XSZgCPYD3X5X7F200ZgDX17XJ4ZORrFXIXP3BePF2005q3ZGsG3Xy99_4A00
  5c6ZGXy09sMAt22004ZgEe9XMYH00XLY87XJ4ZORrGXIXP3BePF2004ZgFe9XMYH00XLY87XJ4ZORrHXIXP3BePF2004ZgGe
  9XMYH00XLY87XJ4ZORrIXIXP3BePF2004ZgHe9XMYH00XLY84ZgIe9XMYH00XLY84ZgJe9XMYH00XLY88XX64ZgKcQXk5X7c
  6t0w79f5200ZgLXQ6XyAY4XP3X5X7F200ZgMX14XaR4vGlIZLC006XiB4vHeAZLCZVA00a0XQ4XaS4vIt100ZgNXQ6XyBY4X
  P3X5X7F200ZgOX16XyAY4XP3ZgPX7F200ZgQX16vJ4mUeAZLCZVA00a0XQ4XbB4vKlIZLC006XyCY4XP3X5X7F200ZgRX16X
  yBY4XP3X5X7F200ZgSX16XiD4vLeAZLCZVA00a0XQ6vM4mVeAZLCZVA00a0XQ6XiF4vOeAZLCZVA00a0XQ6XiG4vPeAZLCZV
  A00a0XQ6XyDY4XP3X5X7F200ZgTX16XyCY4XP3X5X7F200ZgUX16XyEY4XP3X5X7F200ZgVX16XyDY4XP3X5X7F200Zh0X16
  XyEY4XP3X5X7F200Zh1X16XiE4vNeAZLCZVA00a0XQ5c6ZDXyF9w9200Xk6a56Xk7gJsG3Xy99q3hO_4A004i1ZGmEAt2200
  5c5ZGXa49Xa5Gd7A005_BZGZh29Zh3GXaOA003mSeQ_7A003_MeQXaVA003_OeQXb1A004mTlJr49qAA003mNeR_1A003mOe
  R_2A004mTlJr59qAA003_TeRXb6A003_UeRXb7A003_VeRXb8A003XW0eRXb9A003v3eQ-MA003v4eQ-NA003v5eQ-OA002X
  W3bO002XW4bO002XW5bO002XW6bO002XW7bO002XW8bO002XW9bO002XWAbO002XWEbO002XWFbO002XWGbO002XWHbO002X
  WLbO002XWMbO002XWNbO002XWObO007Xy37XdLSy8YUXdMBO5P6006c6t2nOX7w79f5200Zh4X16Zh54Xk7hPeN3XdO9q3dM
  006X44XyGXSjD3X5X7F2005Zh6Y4XP3X5X7F2006X44Xk8XSjD3X5X7F2006X44Xk8XSXP3X5X7F2006X44XyHXSYD3X5X7F
  2005Zh7Y4XP3X5X7F2006XJ4rJYNXP3BePF2003sQt333006X44Xk9XSjD3X5X7F2006X44Xk9XSXP3X5X7F2006X44XyIXS
  YD3X5X7F2005Zh8Y4XP3X5X7F2006X44XyJXSjD3X5X7F2006X44XyKXSYD3X5X7F2005Zh9Y4XP3X5X7F2006X44XyLXSjD
  3X5X7F2006X44XyMXSYD3X5X7F2005ZhAY4XP3X5X7F2006X44XyNXSYD3X5X7F2003bSlKk3A004sPZGXyO9_9A003_5lKX
  aGA003mRlL_6A003_KlLXaUA004gIZGrKA00Xk0a54i1ZGmEA00XyPa54mQZGsNA00Xk0a53xIhQ-SA003xJhQ-TA003xKhQ
  -UA004q3ZDw83XyQ9004c6ZDXyF9w92005XJ4ZORrEXIBZH005XJ4ZORrFXIBZH005XJ4ZORrGXIBZH005XJ4ZORrHXIBZH0
  05XJ4ZORrIXIBZH006c5bQy93hH9hIGo02006xTbQy93XxR9XxSGo02006xUbQy93XxT9XxUGo02008yA7XdRYUZhBRZhCXI
  XdSYEm15m26004Bt4XP3F2002BgH005XkAgJXyO9sPhO_9A002XjHgH004sQt533_LA003_8ZGXaMA003cRZGxVA003gIZGr
  KA003jPZGnSA004jPlMXkB1nSA003i1ZGmEA003_AZGXaNA003k4ZG-HA003_CZGXaPA003l2ZG_DA003_EZGXaQA004vGlN
  iNCXaRA003q9ZGrMA003mFZG_FA003y0ZG_GA005vHeBiNCo1A00jEXQ5_HgJXkB1jPhOnSA004vIt6XaSA00ZhDXQ4_IlMX
  kB1XaTA003y1ZG_JA005Xk7d4w83XyQ9q3dM003xAZGXYGA003sQZG_LA003_NZGXb0A003_PZGXb2A003_QZGXb3A003_RZ
  GXb4A003_SZGXb5A003mUZGvJA005mUeBiNCo1A00jEXQ3XW1ZGXbAA004vKlNiNCXbBA003XW2ZGXbCA003mQZGsNA003xB
  ZGXYHA003XWBZGXbLA003XWCZGXbMA005vLeBiNCo1A00jEXQ3XWDZGXbNA003mVZGvMA005mVeBiNCo1A00jEXQ5vOeBiNC
  o1A00jEXQ5vPeBiNCo1A00jEXQ3xCZGXYIA003XWIZGXbSA003XWJZGXbTA003XWKZGXbUA003xDZGXYJA003XWPZGXc3A00
  5vNeBiNCo1A00jEXQ3i1ZDw92004c5ZDXy19Xy2G004_BZDZhE9ZhFG002v3eS002mSeS002_MeS002_OeS003mTlOr49002
  mNeT002mOeT003mTlOr59002_TeT002_UeT002_VeT002XW0eT002v4eS002v5eS005c6fIw79f5200XkCa56ZhG7o2BF200
  o3XQo4b87XdT7XdUgKZhHRZhIXIm15m26006ZhJ7o2BF200o3XQo4b86ZhK7o2BF200o3XQo4b87yA7XyRYUZhLXBXdQYNm1
  5m26006ZhM7o2BF200o3XQo4b86ZhN7yBBF200o3XQo4b85ZhO4XkAhPXxV9sPdM007yA7XdRYUXySXIXdSYEm15m26006Xy
  T4yCXSXkDPyDdCX5X7007X44yCdJXkDPyDdCX5X700XyUYJ7yA7XdRYUZhPXIXdSYEm15m26004XJ4rJYNBZH003gIZD00Xk
  6a55XkEgJiNCo1A00jEXQ3i1ZD00XyVa53mQZD00Xk6a53XkFeUXz0X7003XkGeUXz0X7002bSlP003sPZDXz19002_5lP00
  2mRlQ002_KlQ006ZhQ7yBBF200o3XQo4b86ZhR7yBBF200o3XQo4b85c6bQw79o0200XkHa56ZhS7o2BF200o3XQo4b84q3f
  IXdH3XdO9006ZhT7o2BF200o3XQo4b86ZhU7o2BF200o3XQo4b86ZhV7o2BF200o3XQo4b85XkIBF200qTXQo5b85XkJBF20
  0qTXQo5b82Xz2fJ005XJ4YORh9XIBZ1005o2BF200qTXQo5b82Xz3fJ005XkKBF200qTXQo5b86Zi04XkEhPZLCZVA00a0XQ
  6XdT7XdUgKXz4XIm15m26002Xz5fJ002Xz6fJ005XyT4yCXSyDdCX5X7006X44yCdJyDdCX5X700XyUYJ5yBBF200qTXQo5b
  82Xz7fJ005X44Xk1XSXk2fKX5X7006XdT7XdUgKZi1XIm15m26005X44Xk3XSXk4fKX5X7006X44wAXSZi2PX5X700Zi3X16
  X44wAXSZi4PX5X700Zi5X16X44wAXSZi6PX5X700Zi7X16yA7XdRYUXdSYEm15m26005X44Xy5XSXy6fKX5X7006X44k0XSZ
  i8PX5X700Zi9X16X44k0XSZiAPX5X700ZiBX16X44k0XSZiCPX5X700ZiDX16X44k0XSZiEPX5X700ZiFX16X44k0XSZiGPX
  5X700ZiHX16X44k0XSZiIPX5X700ZiJX16X44k0XSZiKPX5X700ZiLX16X44k0XSZiMPX5X700ZiNX16X44k0XSZiOPX5X70
  0ZiPX16X44k0XSZiQPX5X700ZiRX16X44k0XSZiSPX5X700ZiTX15X44Xy7XSXy8fKX5X7006X44iBXSZiUPX5X700ZiVX16
  X44iBXSZj0PX5X700Zj1X16X44iBXSZj2PX5X700Zj3X16X44iBXSZj4PX5X700Zj5X16X44iBXSZj6PX5X700Zj7X16X44i
  BXSZj8PX5X700Zj9X16X44iBXSZjAPX5X700ZjBX16X44iBXSZjCPX5X700ZjDX16X44iBXSZjEPX5X700ZjFX16X44iBXSZ
  jGPX5X700ZjHX16X44iBXSZjIPX5X700ZjJX16X44iBXSZjKPX5X700ZjLX16X44iBXSZjMPX5X700ZjNX16X44iBXSZjOPX
  5X700ZjPX16X44iBXSZjQPX5X700ZjRX16X44iBXSZjSPX5X700ZjTX16X44iBXSZjUPX5X700ZjVX15X44Zk0XSZk1fKX5X
  7006X44n8XSZk2PX5X700Zk3X16X44n8XSZk4PX5X700Zk5X16X44n8XSZk6PX5X700Zk7X16X44n8XSZk8PX5X700Zk9X16
  X44n8XSZkAPX5X700ZkBX16X44n8XSZkCPX5X700ZkDX16X44n8XSZkEPX5X700ZkFX16X44n8XSZkGPX5X700ZkHX16X44n
  8XSZkIPX5X700ZkJX16X44n8XSZkKPX5X700ZkLX16X44n8XSZkMPX5X700ZkNX16X44Xz8XSZkOPX5X700ZkPX16X44Xz8X
  SZkQPX5X700ZkRX13XkFd4Xz9X7003XkGd4Xz9X7005XJ4YORhBXIBZ1002mQZD005vOeCo6CrPA00rQXQ5vPeCo6CrPA00r
  QXQ5XJ4YORhAXIBZ1004XkAd4Xz19sPdM005XJ4YORvVXIBZ1002_8ZD002cRZD002gIZD002jPZD003jPlRXkL1002i1ZD0
  02_AZD005XJ4YORw0XIBZ1002k4ZD002_CZD002l2ZD002_EZD003vGlSo6C002q9ZD002mFZD002y0ZD005vHeCo6CrPA00
  rQXQ4_Hd4XkL1jPdM003vIt700ZkSXQ3_IlRXkL1002y1ZD003xIhR-SB002xAZD002sQZD002_NZD002_PZD002_QZD002_
  RZD002_SZD002mUZD005mUeCo6CrPA00rQXQ3xJhR-TB002XW1ZD003vKlSo6C002XW2ZD002xBZD002XWBZD002XWCZD005
  vLeCo6CrPA00rQXQ3xKhR-UB002XWDZD002mVZD005mVeCo6CrPA00rQXQ2xCZD002XWIZD002XWJZD002XWKZD002xDZD00
  2XWPZD005vNeCo6CrPA00rQXQ2uQZD002xIZD002uRZD002xJZD002xKZD005XJ4YORw1XIBZ1004c6bQw79o02004q3bQy9
  3XdO9005sF7m3BmD100ZkTZ85X44yCXSXkDPX5X7004ZkU7XRM00XzAY55wBdD00ZkVKt3b3t4bE5X5X700Zl0t8Zl1t9Zl2
  tA5XdT7XdUgKm15m26005Zl3Y4iNCo1A00jEXQ5Zl4Y4iNCo1A00jEXQ5Zl5Y4iNCo1A00jEXQ5XkEd4o6CrPA00rQXQ4t5B
  kTY4XkM9004t5BkTY4XkN9002uQlT002uRlT002v3hS002v4hS002v5hS004Zl67XRM00Zl7Y55XkOdD00Zl8Kt3b3t4bE3s
  QtBX33004Zl97XRM00ZlAY55wBdD00ZlBKt3b3t4bE4ZlC7XRM00ZlDY55wBdD00ZlEKt3b3t4bE4ZlF7XRM00ZlGY55wBdD
  00ZlHKt3b3t4bE5wBdD00ZlIKt3b3t4bE5XkOdD00ZlJKt3b3t4bE5wBdD00ZlKKt3b3t4bE5sF7m3BmD100ZlLZ84ZlM7XR
  M00XzAY53i1bQo02003mQfI00XkCa53gIfI00XkCa53i1fI00XzBa54ZlN7m3BmD1005ZlO7ZlPSYD3F2005X33XA91Gf520
  05YD3ZlQX7F200XzCX15ZlR7ZlSSYD3F2004X44yCXSX5X7002l1tC005XdV4ZlTc2nOX700ZlUX14o2B00qTXQo5b85ZlV7
  Zm0SYD3F2004Zm17i1dG00mEXQ5XzD7Zm297586005YGBXzE200Xe0XQXNYC4XkPhTX33f52005yA7XyRYUm15m26004XJ4w
  3YNBZ1005Zm37Zm4SYD3F2002t1dN002t0dN004Zm57m3BmD1004Zm67m3BmD1004XX64Zm7cQXk5lU004XkIB00qTXQo5b8
  4XX64Zm8cQXk5lU00533Zm991Gf52004XkJB00qTXQo5b85YD3ZmAX7F200XzCX12y3dN004yBB00qTXQo5b84X44XyGXSX5
  X7003ZmBY4X5X700533991Gf52004XkKB00qTXQo5b86ZmCBXX7RXzF9o0200ZmDYC4jSRw4XIBZ1002XjHtD004X44Xk8XS
  X5X7004X44XyHXSX5X7003ZmEY4X5X7003ZmFY4X5X7004X44Xk9XSX5X7004X44XyIXSX5X7003ZmGY4X5X7004X44XyJXS
  X5X7004X44XyKXSX5X7004X44XyLXSX5X7004X44XyMXSX5X7004X44ZmHXSX5X7004X44XyNXSX5X7004X44ZmIXSX5X700
  2Xz2dN002Xz3dN002Xz5dN002Xz6dN002Xz7dN003iTBXkQY4003iTBXkRY4003iTBXkSY4003iTBXkTY4003iTBXkUY4003
  iTBXkVY4003iTBXl0Y4003iTBXl1Y4003iTBXl2Y4003iTBXl3Y4003iTBXl4Y4003iTBXl5Y4003iTBXl6Y4003iTBXl7Y4
  002Xl8gL002Xl9gL002XlAgL002XlBgL003t5BkTY4002r4lV002r5lV005XzG7ZmJ9O5P6005uPBXzE200Xe0XQs8YC4XkP
  hT33f52005X33ZmK91Gf52003mQbQ00XkHa5533ZmL91Gf52005X33ZmM91Gf5200533ZmN91Gf52005X33ZmO91Gf52005X
  33991Gt22005ZmP7ZmQSYD3F2005ZmR7ZmSSYD3F200533ZmT91Gf52003gIbQ00XkHa53i1bQ00XzHa55mUeDjFCkLA00kM
  XQ3vKm0jFC005vLeDjFCkLA00kMXQ5mVeDjFCkLA00kMXQ5vOeDjFCkLA00kMXQ5vPeDjFCkLA00kMXQ5vNeDjFCkLA00kMX
  Q5ZmU7ZmVSYD3F2005Zn07Zn1SYD3F2003XlC4nPm1003vGm0jFC005vHeDjFCkLA00kMXQ3vItE00Zn2XQ5Zn37Zn4SYD3F
  2003Zn54l1m1005Zn67Zn7SYD3F2004XkOfL00Zn8KXe1b33XkFeVm8X7005Zn9YRXzIX4002OXX8XN4XzD77586004ZnA7Y
  D3F2006ZnBRZLCZVAZnCa400a0XQ4XzJfL00ZnDKXe1b33XkGeVm8X7002BtF004YD3F200ZnEX14ZnF7YD3F2004XzKbFZn
  GXIXzLhU004XdV4ZnHc2nOX7006ZnIBXzMRZLCZVA00a0XQ4ZnJ7YD3F2003ZnKXSZnLZM006ZnMb2jFCkLA00ZnNX1kMXQ4
  ZnOfL00ZnPKZnQb35eN3XzNYAXzO9f52004YD3F200ZnRX13w5YNBZ1004ZnS7YD3F2004XzKbFZnTXIXzLhU004ZnU7f4BX
  zP1004ZnV7m3BmD1004Zo07f4BXzP1004jD3F200Zo1X13l9BXkQbR004XP3F200Zo2X13Zo3XSXs2ZM005Zo4tGZLCZVA00
  a0XQ5XzQtHZLCZVA00a0XQ5XzRBXX7Ro0200XzSYC4YD3F200Zo5X14Zo6bFZo7XIZo8hU003l9BXkRbR004jD3F200Zo9X1
  4XP3F200ZoAX13l9BXkSbR003ZoBXSXs3ZM004XP3F200ZoCX13ZoDXSXzTZM004YD3F200ZoEX13l9BXkTbR003l9BXkUbR
  004jD3F200ZoFX14XP3F200ZoGX14XP3F200ZoHX15ZoIBZoJfMXzF9o02004YD3F200ZoKX13l9BXkVbR003l9BXl0bR004
  jD3F200ZoLX14XP3F200ZoMX14XP3F200ZoNX14YD3F200ZoOX13l9BXl1bR003l9BXl2bR004jD3F200ZoPX14XP3F200Zo
  QX13l9BXl3bR003l9BXl4bR004jD3F200ZoRX14XP3F200ZoSX13l9BXl5bR003l9BXl6bR003l9BXl7bR002Xl8gM002Xl9
  gM002XlAgM002XlBgM002XlDeU002XlEeU002XlFeU002XlGeU002k4bQ002xAbQ002xBbQ002xCbQ002xDbQ004wBfL00Zo
  TKXe1b34XzG7O5P6006ZoURZLCZVAZoVa400a0XQ4XzJfL00Zp0KXe1b33Zp1XSZp2ZM005eN3XzUYAXzO9f52004XP3F200
  Zp3X13Zp4XSXs4ZM005mUeEo7CrRA00rSXQ3vKm2o7C004XP3F200Zp5X13Zp6XSXs5ZM005vLeEo7CrRA00rSXQ5mVeEo7C
  rRA00rSXQ5vOeEo7CrRA00rSXQ5vPeEo7CrRA00rSXQ4XP3F200Zp7X14XP3F200Zp8X14XP3F200Zp9X15vNeEo7CrRA00r
  SXQ4XP3F200ZpAX16ZpBRZLCZVAZpCa400a0XQ3ZpDXSZpEZM003ZpFXSXs6ZM003ZpGXSXs7ZM006ZpHRZLCZVAZpIa400a
  0XQ3ZpJXSZpKZM003ZpLXSXs8ZM003ZpMXSXs9ZM006ZpNRZLCZVAZpOa400a0XQ3ZpPXSZpQZM003ZpRXSXsAZM003ZpSXS
  XsBZM006ZpTRZLCZVAZpUa400a0XQ3ZpVXSZq0ZM003Zq1XSXsCZM003Zq2XSXsDZM005Zq3YRXzVX4002OXX8XN4YD3F200
  Zq4X14Zq57YD3F2003vGm2o7C005vHeEo7CrRA00rSXQ3vItI00Zq6XQ4YD3F200Zq7X14Zq87YD3F2004YD3F200Zq9X14Y
  D3F200ZqAX14YD3F200ZqBX14YD3F200ZqCX13mHRXlHm3003ZqDRy4m3004ZqE7YD3F2004ZqF7YD3F2004ZqG7YD3F2004
  ZqH7YD3F2003ZqI7ZqJ3004ZqKX4002OXX8XN3Xv5Z1bOa0003ZqL4l1tJ002Xj4dO003jD3F200400ZqMKqUb3ZqNbE4ZqO
  77586004X-07y7fHXdN9004XzIX4002OXX8XN4ZqP7m15m26003XlI4nPtK003YD3F2005XJ4qRRZqQXIBX7003X44ZqRXS0
  02Xj9dO002Xv9dO005x4BXlJYI00XlKYJXlLd52ZqSY4003m8X7ZqTE00400ZqUKqUb3XX9bE2X-1hV004YGB00Xe0XQXNYC
  4ZqV77586005t5BXlJYI00XlKYJXlLd55Zr0Z2iNCwCA00jEXQ2XvGdO002XvHdO003X44Zr1XS005x4BXlMYI00XlNYJXlO
  d52XkQY4002Zr2Y4003l1tLnOX7003m8X7Zr3E003m8X7Zr4E005Zr5b2ZLCZVA00a0XQ4X-2XIXdP1jPdM00400Zr6KZr7b
  3Zr8bE5Zr9cQZLCZVA00a0XQ2X-3hV004XlP4ZrARZrBXI004ZrC77586005t5BXlMYI00XlNYJXlOd55ZrDZ2iNCwCA00jE
  XQ4X-4XSX-5a0X-6b5002XvOdO002XvPdO003X44ZrEXS003X44ZrFXS003X44ZrGXS003XP3F2002XkRY4002ZrHY4002Zr
  IY4002XzTY4002XkSY4002ZrJY4003m8X7ZrKE002X-7hV002Xw3dO006ZrLXBZrMXRo7CrRA00rSXQ2ZrNY4003X44ZrOXS
  003X44ZrPXS003X44ZrQXS003X44ZrRXS002XkTY4002XkUY4002ZrSY4002ZrTY4002ZrUY4002ZrVY4005Zs0Z2iNCwCA0
  0jEXQ4X-8BX-9fMo02003X44Zs1XS003X44Zs2XS002Zs3Y4003X44Zs4XS003X44Zs5XS002XkVY4002Xl0Y4002Zs6Y400
  2Zs7Y4002Zs8Y4002Zs9Y4002ZsAY4002ZsBY4003X44ZsCXS003X44ZsDXS003X44ZsEXS003X44ZsFXS002Xl1Y4002Xl2
  Y4002ZsGY4002ZsHY4002ZsIY4002ZsJY4003X44ZsKXS003X44ZsLXS003X44ZsMXS003X44ZsNXS002Xl3Y4002Xl4Y400
  2ZsOY4002ZsPY4002ZsQY4003X44ZsRXS003X44ZsSXS003X44ZsTXS002Xl5Y4002Xl6Y4003X44ZsUXS002Xl7Y4002z2Y
  4002XoBY4002XoCY4002XoDY4002XlDd4002XoEY4002XoFY4002t1i0002t0i0002XoGY4002XoHY4002XoIY4002XoJY40
  02XoKY4002XlEd4002XlFd4002XlGd4002XoLY4002XoMY4002XoNY4002XoOY4002z5Y4002y3i0002XoPY4002XoQY4002
  XoRY4002XoSY4002XoUY4002XoVY4002Xp0Y4002Xp1Y4002Xp2Y4002Xp3Y4002Xp4Y4002z8Y4002zBY4002zHY4002Xp5
  Y4002Xp6Y4002Xp7Y4002Xp8Y4002Xp9Y4002XpAY4002XpBY4002XpCY4002XpDY4002XpEY4002XpFY4002zJY4002zSY4
  002zUY4002XpGY4002XpHY4002XpIY4002XpJY4002XpKY4002XpLY4002XpMY4002XpNY4002XpOY4002XpPY4002-3Y400
  2XpQY4002XpRY4002XpSY4002XpTY4002XpUY4002z3Y4002z4Y4004qABmTm4r49004qABmTm4r59003ZsV7Zt0300400Zt
  1KqUb3Zt2bE5XJ4qRRZt3XIBX7005sOBXlJYI00XlKYJXlLd53m8X7Zt4E00400Zt5KqUb3XX9bE4uPB00Xe0XQs8YC5t5BX
  -AYI00X-BYJX-Cd55Zt6Z2iNCwCA00jEXQ5sOBXlMYI00XlNYJXlOd53m8X7Zt7E003m8X7Zt8E004XlP4Zt9RZtAXI005t5
  BX-DYI00X-EYJX-Fd53zEdK00XwDYJ5ZtBZ2iNCwCA00jEXQ3m8X7ZtCE003zMdK00XwEYJ3zPdK00XwFYJ5ZtDZ2iNCwCA0
  0jEXQ3-0dK00XwGYJ400ZtEKqUb3ZtFbE5sOBX-AYI00X-BYJX-Cd5400ZtGKqUb3XX9bE5sOBX-DYI00X-EYJX-Fd5400Zt
  HKqUb3ZtIbE400ZtJKqUb3XX9bE400ZtKKqUb3ZtLbE400ZtMKqUb3XX9bE4XzVX4002OXX8XN4ZtNX4002OX-GXN4ZtOX40
  02OX-GXN3m8X7ZtPE003m8X7ZtQE003m8X7ZtRE003m8X7ZtSE004X-H7y7fHXdN9004X-I5ZtTbSa7ZP0ZQ4X-I6ZtUbTa7
  ZP0ZQ3yEbNZtVZ2003yFa3Zu0Z2003yFa3Zu1Z2003y7fHXdN9003Zu2X4002O3t6RZu3Z2003t6RZu4Z2004Xe24pCRX-JX
  R004X-K5wDbSa7ZP0ZQ4X-K6wEbTa7ZP0ZQ3XcBRXlHZ2003yEbNXj5Z2003yFa3Zu5Z2003yFa3X-LZ2004yFa3Zu6YI00Z
  u7YJ3XdLSXdMB003BZVXjRE003BZVX-ME003t6RZu8Z2003t6RZu9Z2003XdV4ZuAc2002XjPbR003ZuBi1X-NR003ZuCYR0
  02O3eN3f52005ZuDYAZLCZVA00a0XQ3XX64ZuEcQ004XXA7XXBY3X-Oa4004ZuF5ZuGbSa7ZP0ZQ4ZuH6ZuIbTa7ZP0ZQ2Zu
  J7003ZuKRy4Z2004yFa3ZuLYI00ZuMYJ4XJ4ZuNYNBX7003ZuORX-PZ2003XdV4ZuPc2003ZuQi1X-NR003XX64ZuRcQ003Z
  uSdD00ZuTm53X-2XIjPdM005jFCkLA00ZuUX1kMXQ3XzQtMZuVR005Zv0XRZLCZVA00a0XQ4XXA7XXBY3Zv1a4002Zv2tN00
  4XzRBXX7R00XzSYC3Zv34yDdC003Zv4i1Zv5R002Zv67004Zv7BXX7R00Zv8YC4Zv9BXX7R00ZvAYC5ZvBXRZLCZVA00a0XQ
  5ZvCXRZLCZVA00a0XQ5ZvDX7ZLCZVA00a0XQ4ZvEBZvFR00ZvGYC3XlP4ZvHYN005ZvIXRZLCZVA00a0XQ5ZvJXRZLCZVA00
  a0XQ5ZvKXRZLCZVA00a0XQ5ZvLXRZLCZVA00a0XQ5ZvMXRZLCZVA00a0XQ4X-Q5ZvNbSa7ZP0ZQ4X-Q6ZvObTa7ZP0ZQ3yEb
  NZvPZ2003y7fHZvQ9003t6RZvRZ2003t6RZvSZ2004Xe24pCRX-RXR004X-S5wDbSa7ZP0ZQ4X-S6wEbTa7ZP0ZQ3yEbNXjD
  Z2003t6RZvTZ2003t6RZvUZ2003X33ZvV2005Zw0YAZLCZVA00a0XQ4XXA7XXBY3X-Ta4005Zw1XRZLCZVA00a0XQ4XXA7XX
  BY3Zw2a4005Zw3X7ZLCZVA00a0XQ4X-U5Zw4bSa7ZP0ZQ4X-U6Zw5bTa7ZP0ZQ4X-V5wDbSa7ZP0ZQ4X-V6wEbTa7ZP0ZQ3s
  G3t22005Zw6YAZLCZVA00a0XQ5Zw7XRZLCZVA00a0XQ5Zw8X7ZLCZVA00a0XQ4X_05Zw9bSa7ZP0ZQ4X_06ZwAbTa7ZP0ZQ4
  X_15wDbSa7ZP0ZQ4X_16wEbTa7ZP0ZQ333ZwB2005ZwCYAZLCZVA00a0XQ5ZwDXRZLCZVA00a0XQ5ZwEX7ZLCZVA00a0XQ4X
  _25ZwFbSa7ZP0ZQ4X_26ZwGbTa7ZP0ZQ4X_35wDbSa7ZP0ZQ4X_36wEbTa7ZP0ZQ3w83w92005ZwHYAZLCZVA00a0XQ5ZwIX
  RZLCZVA00a0XQ5ZwJX7ZLCZVA00a0XQ4X_45ZwKbSa7ZP0ZQ4X_46ZwLbTa7ZP0ZQ4X_55wDbSa7ZP0ZQ4X_56wEbTa7ZP0Z
  Q3y93o02004X_65ZwMbSa7ZP0ZQ4X_66ZwNbTa7ZP0ZQ4X_75wDbSa7ZP0ZQ4X_76wEbTa7ZP0ZQ3ZwOX4002O5ZwPX7ZLCZ
  VA00a0XQ3ZwQ4l1bH005jFCkLA00ZwRX1kMXQ5ZwSX7ZLCZVA00a0XQ5jFCkLA00ZwTX1kMXQ5jFCkLA00ZwUX1kMXQ5jFCk
  LA00ZwVX1kMXQ5jFCkLA00Zx0X1kMXQ5jFCkLA00Zx1X1kMXQ3Zx23Zx3XD003Zx47Zx5Z2003Zx67Zx7Z2003Zx8XByEbN0
  03X_87lKB003Zx97ZxAM003ZxB4F2003ZxC4XlQm6003qRRZxDXI003jSRZxEXI002Xl8gN003ZxFRZxGYA003pCRX-JXR00
  3w2RXv6XR003XXA7XXBY3003X_9B00o5b82y7tO003eN3XlR9003ZxHRZxIa4002ZxJ7002XkPhT004X_A7ZxK100X_BX03O
  5P6002ZxLgO003ZxMRX_CXI003ZxNXBZxOYN002XdQtP003ZxP4XlQm6003ZxQXBXlQYN003ZxRRX_DXI003ZxS700ZxTm73
  jSRZxUXI003qRRZxVXI003qRRZy0XI003jSRZy1XI003Zy2RX_EXI003Zy3RX_FXI002X-4XS003XlI4sKdC002Xl9gN003Z
  y4RXn3YA003iTBZy53002XX3tQ003Xe24XlSb2003w2RZy6XR003pCRZy7XR003Zy8RXX3XR003Zy9RXlSXR002XjPXS003Z
  yARX_GXR004ZLCZVA00a0XQ3ZyBRXqBa4003ZyCRX-Oa4003YGB00XNYC3dORXvCYA002ZyDm8003ZyEXBZyFYN002ZyGgO0
  03ZyHRXz4XI003ZyIXBXdQYN003ZyJ7y8YU003ZyK7y8YU003ZyLRXySXI003X_HZ2XkM9003X_HZ2XkN9003Xe24X_IYN00
  2ZyMXS002ZyNXS002X-PXS002XlAgN003ZyORX_JYA002ZyPXS003ZyQBXzMR004X_K7ZyR100X_LX04ZyS7ZyT100ZyUX04
  ZyV7Zz0100Zz1X04Zz27Zz3100Zz4X03Zz5RXoTXR003Zz6RX_Ma4003Zz7RZz8XI003dORZz9YA002ZzAgO003ZzBRX_NXI
  003ZzC7y8YU003ZzD7y8YU003ZzERX_OXI0037586003yDdC00ZzFYJ2XlBgN003ZzGYAnOX7002ZzHXS002ZzIXS002ZzJX
  S002ZzKXS002ZzLXS002ZzMhE003ZzNRX_PXR00200ZzOm53ZzPRZzQXI003ZzRRZzSXI002ZzTgO002ZzUXS002ZzVXS002
  Z-0XS002Z-1XS002Z-2XS002Z-3XS002Z-4XS002Z-5XS002Z-6XS003X-8BX-9fM003Z-7RZ-8XI002Z-9m8002Z-AXS002
  Z-BXS002Z-CXS002Z-DXS002Z-EXS002Z-FXS002Z-GXS002Z-HXS002Z-IXS002Z-JXS002Z-KXS002Z-LXS002Z-MXS002
  Z-NXS002Z-OXS002Z-PXS002Z-QXS002Z-RXS002Z-SXS002Z-TXS002Z-UXS002Z-VXS002Z_0XS002Z_1XS002Z_2XS002
  Z_3XS002Z_4XS002Z_5XS002Z_6XS002Z_7XS002Z_8XS002Z_9XS002Z_AXS002Z_BXS002Z_CXS002Z_DXS002Z_EXS002
  Z_FXS002Z_GXS002Z_HXS002Z_IXS003iVRXlHYA003Z_JB00X-1i23Z_KRy4YA003Z_LB00X-3i23Z_MB00X-7i23_GBy0f
  M003_JBy1fM003Z_N7Z_OM003qRRZ_PXI003jSRZ_QXI003Z_RRZ_SYA003pCRX-RXR003w2RXwHXR003X33Z_T9003Z_URZ
  _Va4004X_Q7aW0100X_RX03jSRaW1XI003qRRaW2XI003qRRaW3XI003jSRaW4XI003aW5RXn4YA003w2RaW6XR003pCRaW7
  XR003aW8RX_SXR004aW9CaWAA00qSXQ3aWBRXqCa4003aWCRX-Ta4003uPB00s8YC3dORXwIYA003X_TZ2XkM9003X_TZ2Xk
  N9003aWDRXpVXR003aWERaWFXI003dORaWGYA003aWHRaWIXI003aWJRaWKXI003jSRaWLXI003aWMRaWNYA003sG3aWO900
  3jSRaWPXI003jSRaWQXI003aWRRXn5YA003aWSRX_UXR004iNCwCA00jEXQ3aWTRXqDa4003dORXwLYA004X_V7aWU100YW0
  X04aWV7aX0100aX1X04aX27aX3100aX4X04aX57aX6100aX7X03aX8RXq0XR003dORaX9YA00333aXA9003aXBRYW1XR004a
  XCCaXDA00q4XQ3aXERXqEa4003dORXwMYA003aXFRXq1XR003dORaXGYA003w83aXH9003aXIRYW2XR004o6CrPA00rQXQ3a
  XJRXqFa4003dORXwNYA004YW37aXK100YW4X04aXL7aXM100aXNX04aXO7aXP100aXQX04aXR7aXS100aXTX03aXURXq2XR0
  03dORaXVYA003aY0RXqGa4003dORXwOYA003dORaY1YA003dORXwPYA003dORaY2YA003aY33aY4XD003YW57lKB003XdH3X
  lR9002aY57003aY6j0XoAaB003aY7RXX3YA004o7CrRA00rSXQ3y93XlR9003aY84F2003XlC4sKdC004jFCkLA00kMXQ3aY
  94l1b2002aYA3002iTB002aYBZ2002XuRZ2002YD3003aYC7aYDS002yEbN003aYERYW6bN002aYFB002aYG3002aYHZ2002
  aYIZ2002XuSZ2002XuTZ2002o2B002sOB002aYJB003aYK700aYLX03X_A700X_BX02X33002XlDeV003aYMYI00aYNYJ3aY
  O7aYPS002aYQYN002aYRB002aYSZ2002X-LZ2002X_FYN002X_EYN002X5X7002aYTc2002aYU3002XlSb2002XkIB002nOX
  7002aYVcQ003aZ0700aZ1X03aZ2700aZ3X03aZ4700aZ5X02eN3002XlEeV002XlFeV002XlGeV003aZ6YI00aZ7YJ2aZ870
  02aZ9Z2002XkJB002aZAZ2002aZBZ2002aZCYN003aZDYI00aZEYJ2aZFZ2002X_IYN002Xx2YN002X_Jc2002aZGc2002aZ
  Hc2002yBB002XuDB002x4B002XP3003X_K700X_LX03aZI700aZJX03aZK700aZLX03aZM700aZNX02aZOcQ003aZP700aZQ
  X02aZRb2002aZSb2002aZTcQ002X_McQ002XkKB002X_NYN002aZUYN002t5B003aZVYI00aa0YJ2aa1YN002aa2YN002X_O
  YN002iSZ2002Xx3YN002Xx4YN002aa3dC002aa4c2002aa5cQ002aa6b2002X_Pb2002aa7YN002aa8YN002aa9YN002aaAY
  N002sSZ2002Xx5YN002Xx6YN003X-5a0X-6b5003aaBa0aaCX7002aaDYN002Xx7YN002Xx8YN002Xx9YN002XxAYN002XxB
  YN002XxCYN002XxDYN002XxEYN002XxFYN002XiHZ2002XiLZ2002XiMZ2002jD3002XaLB002aaEB003aaF700aaGX03X_Q
  700X_RX0233003aaHYI00aaIYJ2l9B003aaJ700aaKX03aaL700aaMX03aaN700aaOX02XdH3003aaPYI00aaQYJ2aaRZ200
  3aaS700aaTX03aaU700aaVX03ab0700ab1X03ab2700ab3X03ab4700ab5X03ab6700ab7X03ab8700ab9X03abA700abBX0
  3X_V700YW0X03abC700abDX03abE700abFX03abG700abHX03abI700abJX03abK700abLX03abM700abNX03abO700abPX0
  3abQ700abRX03abS700abTX03abU700abVX03ac0700ac1X03ac2700ac3X03ac4700ac5X03ac6700ac7X03ac8700ac9X0
  3YW3700YW4X03acA700acBX03acC700acDX03acE700acFX03acG700acHX03acI700acJX03acK700acLX02acM7003acN7
  acOS003acP7acQS003a7ZPacRfN0ZQ2bOa0002acSX4002acT7002acU7002acVfQ002ad0E002ad14002ad2X8002ad3700
  2ad4T002ad5XB00200YW7m92YW6bN002ad64002ad77002XuJYA002ad8aB002X_9B002XjRE002X-ME002ad9E00200YW7m
  A2adA4003a7ZPadBfO0ZQ200adCN2adDJ002adE700200adFfP2adG9002adHE002X_87002X-07002adI7002adJX4002ad
  K4002adL7002X_CXI002adM7002adN7002adO4002adP7002X_DXI002adQbN002adRXB002adS7002adT7002adU4002adV
  X7002Xv8YI002ae0YA00200ae1XJ2ae27002ae3B002ae4J002X_GXR002ae5E002ae67002ae77002ae8E002XvBXI002Xz
  NYA002ae97002aeA7002XvDXR002aeB7002aeCbN002aeD7002aeEbN00200aeFm72aeGXB002aeHbN002aeI3002aeJbN00
  2aeKX7002XvFYI002aeLXR002aeM1002aeNE002aeOE002aePX7002XvIXR00200Xy4a52aeQbN002XvJX7002XvKYA002Xv
  LYA002XvMYA002XvNYI002aeRXR002aeSXR002aeTXR002aeUXR002aeVXR002af0XR002af1XR002af2XR002af3XR002af
  4XR002af5XR002af6E002af7bN002af8YA002Xw0YA002Xw1YA002Xw2YA002af9YA002afAX7002afBXR002afCXR002afD
  XR002afEXR002afFXR002afGXR002afHXR002afIXR002afJXR002afKXR002afLXR002afMYA002afNYA002Xw9YA002XwA
  YA002Z3a0002afOE002XlC400200YW8m92XuOYA002afPE002afQE002afRE00200YW8mA2afS4003a7ZPafTfO0ZQ200afU
  N2afV700200ag0fP2ag1E002ag27002ag37002ag4YA002X_SXR002ag5E002ag67002ag77002ag8E002XzUYA002ag9700
  2XwJXR002agAE002agBE002XwKXR00200XyVa52agCXR002agDXR002agEXR002agFXR002agGXR002agHXR002agIXR002a
  gJXR002agKXR002agLXR002agME002agNXR002agOXR002agPXR002agQXR002agRXR002agSXR002agTXR002agUXR002ag
  VXR002ah0XR002XuPYA003a7ZPah1fO0ZQ200ah2N2ah3700200ah4fP2ah5E002ah67002ah77002ah8YA002X_UXR002ah
  9E002ahA7002ahB7002ahCE002ahDE002ahEE00200XyPa52ahFXR002ahGXR002ahHXR002ahIXR002ahJXR002ahKXR002
  ahLXR002ahMXR002ahNXR002ahOXR002ahPE002ahQXR002ahRXR002ahSXR002ahTXR002ahUXR002ahVXR002ai0XR002a
  i1XR002ai2XR002ai3XR002XuQYA003a7ZPai4fO0ZQ200ai5N2ai6700200ai7fP2ai8E002ai97002aiA7002aiBYA002Y
  W1XR002aiCE002aiD7002aiE7002aiFE002aiGE002aiHE00200XuNa52aiIXR002aiJXR002aiKXR002aiLXR002aiMXR00
  2aiNXR002aiOXR002aiPXR002aiQXR002aiRXR002aiSE002aiTXR002aiUXR002aiVXR002aj0XR002aj1XR002aj2XR002
  aj3XR002aj4XR002aj5XR002aj6XR003a7ZPaj7fO0ZQ200aj8N2aj9700200ajAfP2ajBE002ajC7002ajD7002YW2XR002
  ajEE002ajF7002ajG7002ajHE002ajIE002ajJE00200XsKa52ajKXR002ajLXR002ajMXR002ajNXR002ajOXR002ajPXR0
  02ajQXR002ajRXR002ajSXR002ajTXR002ajUE002ajVXR002ak0XR002ak1XR002ak2XR002ak3XR002ak4XR002ak5XR00
  2ak6XR002ak7XR002ak8XR002ak97002akA7003a7ZPakBfN0ZQ2akC7002akD7002akE7002akF7002akG9002akHE002ak
  I7002akJ7002akK7002akLE002akME002akN7002akOE002akPE00200XzHa52XwQYA002akQE002XwRYA002XwSYA002XwT
  YA002ZRa0002akRE002akS4002akTE002akUE002akVE002al04003a7ZPal1fN0ZQ2al29002gGa0002al3E002al4E002a
  l5E002al6E002al74003a7ZPal8fN0ZQ2al99002gOa0002alAE002alBE002alCE002alDE002alE4003a7ZPalFfN0ZQ2a
  lG9002cAa0002alHE002alIE002alJE002alKE002alL4002alM9002gBa0002alNE002alOE002alPE002alQE002alR400
  2gTa0002alSE002alTE002alUE002alVE002am04002eIa0002am1X4002am2E002am34002am4X8002am5E002am6E002am
  7E002am84002am9J002amA7002amBE002YW57002amCX4002amD4002amE4002amFE002amGE002XwUYI002amHE002amIE0
  02amJX700200XzBa52XwVYI002amKE002XlI4002gLa0002amLE002amM4002amNE002amOE002amPE002amQ4002amRJ002
  amS4002amTJ002amU4002amVJ002an04002an14002an2T002an3J002an47002X-H7002an57002Xx0YI002an67002an77
  002an8J00"

end ScriptCensus.Grammar.TypeScript
