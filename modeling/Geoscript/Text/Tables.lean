import Geoscript.Text.Coded

/-! The tables of the characters' properties, in one code. -/

namespace Geoscript.Text

/-- Categories, writing systems, traits, blocks, capitals, expansions, other letters and other signs of mathematics. -/
def tables : Array String := ((Coded.read 38668 "
[]0<pJaBNT^G4QTM$~vRt'T!'1,W.aEeS5+;MxFcgr)[!&_GdlfqNs`QF$5l[IV,7ovKR/_.LN?Vm&S%uDGhf=9e^RB#;@&uiE9~?6?37)O?/vJ]m)7VyAd]@Fo6UxC==@806JEzF(IbGQt7Hdt`_:HT2TGf9#bJ[@7MVjF[oqkm@3zHbqg6AV^*6M#RLYp'df:fz7iZvDHsO';5hhI?#8z^jA~05C?G(1mJ.#ILk&)crv`%k1r+?>zEeBshV?';>ft`K8tibM=8Uhaz(r|U<MW;T0>;fjxsB@_+Nq!yM,$#++8Ca*WehI)gs0<SRYTh!<PjY^FxZ=)np&aotfgU<=Q+KWIv|E:OxLLe@&FgC~<5sFcIl?/9TpFB:a+S@92;[D>qPH/pfi`J/OqAJ2[hzER,k6]*X),9?SRrPHfd'orD<YZXI+l6+/U4LpEW<S(ZB=>2z$fO/+F:yF0pA0?l^;NoRS8(W)A#MMj_ON4&lx&:f#tQ|R$Tm|`F2qBR__'OUotY:fv9Q|o0ECg3M_Kc5ec7:xAWnTC/N_=WF8WlzApOVCr|>82su`N$ryKHX@6H~tu#J[%9.zg<Gw|xVXS*xXvAWmk,B`#.E`L_:KEF9'8hs?n52L_?t<l^WDXK:L4T4Z>vB'<B0PAK0@=3x_rvs!D388FcCD9..mmtcGSrfw3RU2%a4EkaHOm_L>+5k:E1ybus?1i,n#SqTGJjC+I3fLQ58T4yv|3dcQ./;jr0Rr&hp7!Ld0Y?<4e9P,5<9~`n=l#F(?6^wdT##+Y)6k^N|XX71gZsUEc/DS[2obM52(o(J4b>,iMQry;?'CSRzj1.p/fy&!t#!d>/h#Bd/6p;xgjf|;|HW)I%N;)0QnqA>RF@cLsCU:Z=p;IH_skmCOYTK%&>a9mmr>5gu:j)p=&:(52|Stg+&<,$/<,Ik=49j3_dE5eEV:(Lpdb6NjNYyyfDdfLWpG+[F2]05[MBw7,QQ2$t&wexfDZXb@3iqudsBto#iNUjbI&QuH]^c;t<02&g&#0X#ZoSSp;#=K`T&t3N,*b#n(<Z1eF@,(UYyY%e;v*=Oxy/U]T7_cBhVE*V:W`d&%KmV;/f,e4rBhLaE;,OIGBN[8>afzM1`':9&.Nv;u0ZV%V@/69>BcG3/GvYp&|xx^:|n~|sJ~x#Ud.D/x|aqgXXLlv/m0dbAXoQX'J4u/Lp0gOS[?BQpL]Cp~#uZI=XX7Bol:w8/(%!vj,Q@`d&:Vp_6'Kq.>CPgnAsE#$XSH('z<Mr0Ou3Ig)GbScih<pWF8(K*tu#zV]b_LUVx#Aw~XMvmq_o9n?BUZYMFosCC|c~IIgq<*y)'kh?9?muA=?i^,'eCA6mhb+L6mS_M,SL,=;7j@rI^cbtU_x6R~l$q_'rgE79ZvwCmua]2gOel@(#`6pJ,X64x*%Xc_#dBSR_`,Ur$Zw^5zog_Id]]3`a2a09lo|!E,cmvR+erXu.^GYOR*v?qELEg'*|%as;yhWtn#Br0u5B;C.4Z1$VO0f*|oULPo(Uen(pLXa7^n+AJjc(*W=U4qP/>?A;`e*8iUsgdIR'[Sx3i(za:RySH_0zA<_79fZs:mOp7!VsUzyTj?6d]b9!EM^2/Av!*!$v*&D;RUpiX(+U=)9,Txk(tVLaY*VmE(SAZKfvmi/KiQP/S;E6Ek+;x:AHx98g:J.AQ&(kzRI|cK5!O1:hm^<o<>3_<*$Z>p*!&6uQ$]/_!*GEa628zbwdmnD.2esbkS`iEvW=cgG5y>SAe(#U'|:YZ=A+u]C.R^1$Py3QL`<B7[SP6UG7W+%A8[y)_ydUB3zuG2S$v2zh^O[^MeB#!?XSqerpaP%C~9If)vh$a#JkJleSpfwaZ>g(^V~cU)7>%is~p8GP%[HQz5q^8%AtSw.bFx*f,D5<fxsCo**<S'Cz&+IZyHMCgpzivA?lm!$&++hnU9%erLw=eZf+<]`$0#@S%=WIfu2_?TupK,^)Nibz1JrEg7M]%`bg3o,eSn@^O&.[
>Oxc?z3xMgT4ZH1wregPP1Dl4~'lU`jcETQz.[odN+IWCnqkj!4|t0HCY7vd)3wpm[QIGTg7D:g)!U~iwJ|Ly.wNThFOQj1Ive|gL>~J6v&6?WC4d;,k<Q*nq^IN(lE;Q#(xD`p1gV`z=!nyxJ0o[$j1]_ZBDB):.~)K8aK3B)`iyX!z/w5_~u>dtv10D?5MP[fsj/g#Aj?MO,*hUorRas(/c118u6n6>=u)J,J07,e=C'JI$=:]e=P]=FN*+YrDLFwNbRs*ZHTB9T.^;NF'L1Y(R]PT+.Pax=`?$r]rKK.K$y=pDXiQ]m*m.&WC$ghS'P;3Z#*r1KtxH2LJvJ4Yvz27eC:G[N1I%g3M0n/V#&1PsVL%YTW+dwTO),FNXQ9Y#|ikKUNw/m8PN+$xP,l6PwF4QO:l7W8bz9lEXY5OnRZ%$yQ:Acyj._RMJ)<22CgS0Z^uI_mk#R[[fJs*<_q1QJt'aMB>FF0?q^)*l%hs+^_(qZiJA~RvWF23z,yi@5Y+bm02XB2JI7%:B5XGzkgI4y+<Q8VQcI;(dB?L&#:n8Osw[?g.Y);5||AIFjCeLQk#P%^k!xA(,LY:Po8.0v'/z(#'caDUbTz_m!5_7J&`dEU[`w:!ScIL,Rxt%l%R=9Q7lHNfXAQDJ53SrsL,vP(4ifGfta^7iXoPJt[g10%UE.<D;gJv'.cg75#z)=B^kSesj?apItHVK6RBjSXnG2v[X6LbBu'7M>Lt/Ujh4_]_KQ@eL[RsTlR$Djo`eH;/[AQX)g6CFD'bx&bvJgNK=W:3<j(!oMVsX:&)%Mv75q]kggLK(KvGw%=J;aLrY,OeZ;z,6dj$IF627>II?)=i,fr).tbEH^sW+5RrpMYuPD^jQl5ua;fscQc*i2W=|EL[I2GnA<fY>!v/^t?>J+Lz:9:oEKvdWf&Hk_@.+VO7IdzuVm]9*bf`7)+QoE8XjHK0ICP/:Oi>iXTmig&f|q|4;8js`0m^m0`2:e.]^DpZyCXng>q3)/CWmIn]Sexyy+F[tI^!=L<mU%/kA7~CW`VdOucRVuP4o.Kq%%i<FH|UY>yi[F=)dRap,cD~p9a?4dN^W:Wf|*[Vo(DQ#42T&2eRshZ[Iv^G`ZI6AIZOg[v@P0#m!oZFy)kl@T's/y()yA`mzI*26|,qsMX|+6y=j:37QwKF#oG%VT|,AmEx#a0JT%O4NWJPrhcdM:s]BzoH0i`n<uIweL_c']BRo*TlSAhAU6!JoHr>)7rG?kP%SR@|'H$@Ajsp5l)/%D8^/%Ztt0_,n3L|hoCx9rpVs~+w+eSTvSDKrx(KBem&G[;F6o9^';YjSQ0h*L/#:_az$np5KA0A|OEw.kblm3~bTT7&NPf,[COw7gA3I5:`,Wn^r6p3Ks@CZ6eGjl@n(5cQ]Cq]$OqD%8lT<7]Mau@;0p(0,h0;lt+l*G/^`U&;cRw'>$uqga[B5kj|9,%T[)k@JNY]K_0gF2qLB:h)D[b^>EA>H~ptPkAYZphBt&Ltt@xzibw><,e)sG/qVc990,xR:uK=d5$zZtIBKevmjqY(!&'Z5aDz3]U8c~i@g~v|2hpR$sYRut2;X5UyUs8t>3IUH4e<5n87!ifRLES==oJ<%aNTu?mp+<O.CE[Y<pp<rX!y[=$t]aCJK^&jH%|wJ]q2.,?&CNc<u#M6Cq|t*YYGva!5^qDE!xc<sLTPX4$J)53XtD0K6R:VSDBfe>,.:_P0ol[F9^w(0lPxBE@:YSM0UV)0f/1,:pGTK$Nmo8g>]m*Fg9#617fE&CI$p%<P<X|UuI5)y'1`,<X6yTC|A|XB<(X;cP^h/yA?X%mg%_abbGmnmOML~W[bKoo[C3NPfs0nqLmu1BW.0QrcxTeFoRy/FpC|h39D2!fY/*Kv4vF_^t0XGI2TA$rEAcBU2urjY(6=g76XzXgmfBOPT7GGROK+'3Uf$P4Y1O04Q8%v#m]!j3>ag[tuJbzYYUrYVNbMWa;Z9^*($iT>`19k,lPRin<lv0xz]_Z?
nlpB4?Dk`]BV;g1:pD.!l6ew6pZaZ#:>i~4OHu%.SgN)P5WR(t9w,[QilSeRgJd`WS;ZO(L%u/io`5u`%gWu%y#6Rcj*t$~J~Dh+hx6lQY6%569o52Kc)FHZj^V'Yv3zi|D|]Ka+spYJ$0_3S)$aW8!&5,ldpn1YG4_5YkOQ7O3DTxPB9KYdZyA@?CCk4=,8B,7z!38:OM$&+/^[A@eE29xRObzJYA++rS&p;/W3@fOw05~J>:BYWx)itFQ/!,tVs1<eM.26fS/NiiV/U_SWsM+QC(8/~lo)'Li2]JP!8GS)^/PF5/Rx>[=8:^Ui')Ec;>+tKaWb#zT19Ze=uVB^,oyl~S^DEEEOs&6G.JBfjL;f?Lk81#L%;?bN;m(eEHqU/l#)rQBf*!K3$9cWX#F~rew+4C'B6V`ZE|Iy4m3attai!CR&8;>9/K=iw[~*pu*GqQ#=Bl#qNp>O=<'3X_BwBvx51`A62(Q!z[kRc$veChrzpt_FBSgHom,dG>Eb>+:'&QH|Dt+nVgy,VFBAH)8N%VHUxZPPcehgGy:Iv#vq444<3yR^Ewj[`X9$X*c,Kq4@PKBA%F]+NId^JVqKjPpb,A%2ycur_N]17wmr8T>#1)5~e(AdbUDd0M0rxCaYGAurG;&x&4lIM<W|NEw32U>IdB^]F&7rvP'ap/M$07A#BT*V>pv5MhZJPkSu4OoTk:Q@.Er|4Etu),qjg<Qz$2IataP2QX?)mq35Pb0lWk|4Tt***jVDtq#KZU2VtRLWGdp^c2og)eb&LggKU7Mq>@s9nbcCK`&N72^I>_8`'O4xR5c^809;L59TWE$kN,]oD'*4p$`[J%:fqyx0T,NqxWdAZ|2<cb#0^BaA~2cC2!xU2Wjg$5H6#8;Cm2[P7%piA1Nh#$/g:5a@mFp6pePSo+f'</~l'5Ojf>E,?Mu`jTZi,]a`&Pnvb4[9%lVo)@3YMEG[*f0i5);w2c'J'=U)diTiu?W3RKbiEo&R!!Z|)8+EpTj~LK*C``X_evOCcK$K'&_2_cBdiTmDhm<WQ:lH/To7MtkGR>q!QMujxB|.dwRR%9bpgFPk/nm+8b]cszc|Q@5>..z;J~E?dayz_xr.~y&dP^x,q7hMt=IWtW3~R%eC[9NmPX]$%~|WiA$ItQ3zI?RPJNtR&cfY!AXv`i5_(p,~.pv4tJRH`bTx$9inWR=c5b^39CkAAA&JYgFf'AtJ2@~F<8j(3N;+!C&.1|@1FxT]g~(G%v&9&v1se;zku^_p6TW`%lQ5`!;4WksR?Bu+SP4)g:1lz^@YzfLgc;w20c<dTZvub'@.a&Fp4[34/&6[L%Ky?')bNbIxLrsV$K@;#v*8&dQ)AWYCPOi8c4@cvadmVXUpEvCooaq?M6+eU$YrsG,.=/A~dapoZt`]6s7v3BLT,4!D?0mb)[Jw1[wLOo>RqC,t^<CX=K)v>H#UgYIWuhv5[gxl<aF|gHZhfcWY`SFdzA?:Y%b2/O'ImR^KOA%uAJBxQf7|#KpWVdXMiNby!FWKH?.PL<)ot]QOT0?,hRX7'jE~S:KTgrNeh+.'SZ4h_&5Ej.9bsq]D;3f]U!f%jZzZt7:l4hPFrc<87dP1G/$a[mPsmm^a1dp=6@4iBh%n@+^pFo?lD'`&hl:C[OBToNW3t$;w4B<lA7s&CWQ=J7#LYvvI@wBCHE9$v;vyAorI?r@n(c5.Wyl'iYC^lU8YaN!tl8x',7.gL3,$NS$quX.M@BjB4,8_Pj5:~Gk>]FPTD,h+^Se%?S<+M.?=M#&'iK~|@Bam!_*1|HMF%dLegXYkcd=l<3mGi[c9YaR1Dk/82$Ze?okVzy*]Qoc]3HbpMTH0f(wF;$]?TQ<8+&yGf9~5+gT.A?VKUu=Wgor*58oBrr;hKab;z9,VI[N:_mmM'ilcgrtE.0'6JAMcI?'kfa4k=;>KL'oKcT_pY+3W?jUz*yhcnqU][uM[?MHK`yyu&T]ThI<<Pm;eL;<_~4D:2QanCbXg]:QIitTk4b'x
Y4#be*He1Ka9P99Q;$+6:g8ZIW2ruA%V#|:o#]uD33R(A`>8Y^e~G=69!da*,GTL5c*'&t|e@myNh3mCBMw%xx>|QPtnvAnuluJZ,Q8JJ'Bo.N~JjXGhhnvOG~*;QsQ|U)AQfLa0aeak/k[>Jd8Ww3Dm?3;5Rq_~1`jDvT1]3<DvM?w~f$1%,s0?RFavk+Xt|*/:64+U98shgg_;04O?<fy^aXn?jqSXf(hJXc2BDsFFDRvnei&xK9+Y_H~UEov_I^~?(t[32_z<zr3Z@'K:W^Fo>HVbPV66HiiTNDQLd/,sIsKR)'3&>+EZrBCyhS.AmkQA)33bZMI5)L)`/zwg~Y~z0R6zi%M;+<1l?Pa~Y5Q9`faA<X`s#B)#6Ao4L2op*VQ`]c7ZQi~Xj;`Kj>k=a:DBp9U_>~I=*tv`;Ml(>&3pje`JegX;l]Q2M6djE,St[GcST=wq?RxC2pxoC%g0lA3!NW6PQ<9zc~2T)0owjq#Ngm/6I*R7a:.V#K!=bWkua@K.UfPVkHDyO*kU>+CTwz0a@$*VnEN*huXWnpHT_;D'/FNY=zGG+Uu3xu@vzY=7BjB:`09%T+j@,^DJ.hS#|Jz3hLL(1tgyPdM%bK$9~Tw8YjkP[7GGM5pkYIJk+[41A:ApGuq['e)tl`$zLIjNm^h(LpPTI^/H`Vy79Pxc^J0ukfE3GqV9)_k*@pn.d]BTlf.Fa3e3dKX4ajWW5UX@%D'&yDZQ>JSAHhp)?vv#y:lDuu%7a9]9phSZ~&0`(1@t%s2GvD:5~K4=p*T|@[VNr/MrTDngxL0CS;U|%w??XPgz['iUp1iy>mI_CuQg1p)vDf]+<Kexpurx6Vo@lwou6i!XtyF4)HXn:x`XjtNBS++8Qa7Eb$<[<OJMq1hvnA:scOle<PW0?%QT'$p8Gi823^9*gob.Z&E3<0ziOYwy1tJzKJ:jpMR/VGn,D9o+eisRq<+kQ'*R2ucli;WxK|PeIXij~WCr2wS~Ux<OiV3%lcmlQ!c<Loxn'Y&=0LE1>s=DckRAY&eM+0>$'y?7!uJ5vM~SsRJ(g.<E/(KV/yMpQm+M$A?m*EPNcJq(GmP2nVDX'He/,HNsgIeF`cC2/~ziIb7>rmV|8=Dp2bTr5D(6Wo:I4C,HCg_1f~PGF(%/sXnc39NV(73?qqvG^@h:f&6qtn%piF?<efv~0x`IV9%&_8jwJNFxt'Rt32/T'%6t[0!9>ax7a[y8E9CR=I[YbQ7)J:T0u*4o`~H~nqEws.[^.?O<Tq89Nn)>S!ZQO9YCmM+:mVB?ddB2$w0G9OlLYvn[;Pp*xv)W]_=`v)!==d'n5;XJ!M0#[#OMfA,5U3`'F)*k>fd]tYb~quJES9=)7!>e[^B&s%&gY0R6V*OW5TDzD90ekcOa^%%$assZ2|hdSl[>b9tB^]L2xfkJDPj/TeTJn|m</aliCiWXc4;h,_KgH]@+b,FSb7`FmofOlM+u8`nv>J+pBpA.e#yH:*ZdL%MFgas5sPjh]:Ux;uU~z0b%f5kuzZ7?Z8%5uO%VFa;yAW.r1;1N!c#zZs`~]PepCuT6U6$Tn~xYSi&?I9dlkM#|^$kF(@rfkyKM`'x1K(?YOQt@rXq8@xp]uN17lonwohWVlV]uZ+=G[oc3:3$3]<&<|oWzDc2Y7L(#e,y^1[Rcf+f0B7BpWYB3Qx/?9'3dx4s%SmY!f5M*dR'uHhZ1SSdUo.VryFC+SS_o7JQtb=jE0(%ISW$(HGX2x,(b:YY2`pt`'Ao%ncobAq=)7O%0BWPk%(COMn?M67'uEu;VhcnxX@e#Fn$iECS4$OOrx4O~EyHVJIF&M0E4=U:]`U)@~lBHG*pk#%!ElT1XZ`!+fS~,KoAOTsRimrzwHzln@3(2M9^4B;W6'S2_#d1t,r5@%OM'M:w&qW|#6LKc7LfEV5^NT6YcJ.t/zA46%jsygO;9T,GH1dXr!F:i:`YW0c#=$td0yZ&RAp.N@4Pg>My5pG2IzBsSYjj?C]98'KAeN`Ty
O3=dQ&]Z,v/U#h+6'kpvmz),nL8yE+)N=uFcZqC21socceh.hKCyu|M`=L%y4J@V^BJ0(d8j`DSS~GA?BO2PtUgFRHV,EpgiuXZiuVuzL~ni(=17tvJY_fy>;aP[dwhaB`9ZH5,NG!^fd~0eg^ZX84@MG$rJbL)8ZdS5G?W#givWYlGXdrWA~uPor(ukEXzB)?lpB75ELd[hNQ0*X&Tlo3,K[Q`p7J_TXrFB!Q+5/vq~+trhiJ|&I]/R20G_:2S225dnReTVs,,s~exXebzaa;04q~Ka~![wM<F&qLL)lPNw+z)*<C7q]cc/v4r,XdDe!^e'BGVxG<(EeU<%&Zw]'v4u]JAtX*esjM]d3|+RD(b<$ZGPt2n+cY6/=RXIwXWXifFK$+tdP?`n&t>Nz]x3D@@Bd<rVCGz??iL('$@fX.iE?xMf@|6],H5k=#|XW1+orRzcm'x|VJ<du(z%`b`:eW9+@_/#xG'qQmkrBvb2~vb18bt3$toT'o9z?H#K.hzI<U*tQNPR7pny7ertfA59;5#nrr8XG#dn|e+8939#Tl~`nX&,L.FFvq,2kC]w[59&+dp7hz%=AOqb<$sO?`*APr4C<]44BPKuPrP</Rb$;fodXU,&Ry*q4[~,#j*X7W67v:|t><e[P&i[_AXyq+r_CV/*cI7bfTi?DPYwgU*bj'k0+x=^KC79|8;!G85aS;9UT0a&A+63:BI9&!AG?'3v*7uH@)r_!/)k.>ExFG:f>01I`(j7?r>nG2y3X0t)|cWb*KL$+F5x`W(cg_Yc.Tdu246>@t83vnT#.(btra7$PWY|=T0jVcjc#:Fk0t5`y8>$[Kz3$+&n_>H:TW0Q<;ENFBn|n72[EaP0(Q3Z6D!gz*Rr0,x8zu:wRXwN67%Q?#B>Eja^w@FjtgquxHMgyZXJ#|yBl6Z966/h!GTW],6cs9cY58TnGs>MbP,H=dm1CkmCXq3~FNiqy8tBnm,(W%_b%Y!'9Lzwb4B+JN0rL<1(O&+0[5R];nwY>]FQM9(g,|,#*XdxmINGT.x[H=[O/B!W`]i2x1kH~CsqOrYLUAg6Rg*7utHw!6O+In<1+nk]kDo*Tj2JqEe'g9a>LcQzT)>:`E(lZ4UVlAOO');V=j+cCwal2J[gJ>:?L+L%Sf;<JMY@[cO62W</%MsRJ|G$zv/Z.0P6E=(QQS7ik&W=KeJ&l:PYPqh3)C[l7ZiH>1SH!O_&1mzijY$R(*?o)~:sWFq4DrFgm7EUt0e|K$_bIDH_w]G]DY`2Vwu[m,>8LVug'&xCs8pL8e'COeHF4cp?rv0dSOPlJNWWz+BzeXZs`LLf[Akw[Oo(`Mcg3iT.p9>SU3z5C~vZi^JZv:U~*0,f;2QNCiXMNEvi^I|fsrvr=g*i;s@U$gxNQQMok2U!]b!TpnZ6vwj'l2K^U*$tp#0VxakBh2%q^.##jwPxuM:';tyRz1$QUuHyETe/Ewn.04XS7415NcO?`l''J*WTk0cF!$kb`fn8'e/XYlJ:piVghyj5qO4%%6)6Ns#,g~9%!1JN8qwoPwO<~.7KBpG+KqO:,4K4B]4Uki'at.F]:'Yw.8VSyE&&HbhzFRcH$2eH6>vGgy>p|th`R'C:Yh8b:gwf;`VGq|(CG$H8xjE5s5i^av&&0tB?@6A>fd$9*AHHjO[O4#AKo?Q3RG*/xNy:cjn~Rl^SV8Jo~wJgP,|NMiZmjvI(u%G]Z~Mii,8F+0au~2BI.gl2Bc.'q[lB1k+8Po.GQZFQTq5kTj0FP?Pm#TlFPTL1M&R2vW.Vd.x.#W5,?=N`jJV)>@,c,>mUIgMp5@[GP_+=9;W;LOk%Muz(C.'oQN'mzdG!Kg#MB5jv.2=OB9cfj/qZQO`rF<LuS8+x4*F4bssMXcE;3YP>M/s=W!bR7^D8Gb_)*e.&Wz+??f1^c0JpV~!5#~B1)*L/*QI~WpOOuAY9?hZ)@vEv7~[&`rO)huI@y^ki,~8%[lO#*,~7KO5yW/RA%KJpo`!].j?e1`,|
<BA/Tp8'G81rRz)EgfFkc;*~lkS^96#|z$O_,;r4JKs|cj/&N;_brwJ;zFlPlMhDQ[#BGpvg;(5#I[b?mpJ:F6heb+_#ZU?$?cfBw*@o';K=!5'cX7gOFxGcHuf$IN`A2&^2(`#Ywmv#p'pm/itT8h&uYlyXH[s1MP<)U<q$h,aR/HMmBhVS+y%Cx;ExeR3/3Cq=jSV'Ht@ELo*,Uvclpul>6As<2`hkPSGoYw>=$iR)v1ty|&^0fgbVln2L[mX9dM]>u[C6pN40?oJBJ3D4qQH>4VEwQ%'(+.YwcvPh$2Fu'b1vGIGnHu~6/^2F1rJ@k82rBv4j1?#K)cDf2iZCvOiHCzBECw^<Bp8zS(B<pQih/'r6I`Mw;kVGVy~%=5:>ZsN9TdY?twCD6*?J73D1.!^'oyMQi@`;>>;.y)5'=3`|y2FbjGae!zR&?HGt6HsVY8IvcmoN*If8pwB/%tTq3qcOWc?vKC>^S[ccb#a0qa]XONSfB9wnZL<k.?3W>oQ/!a0z~waA=SKFWiP]dLv09'TpM2)uZ?^QASv3z$)D/co].AH'AZN+8]52Hq]$3SQjaBp'G+Q.yOt''fgQ)g5=7ROvN58,WtmK*&u>4WtOCp+|D8~D%R].*VrMvjy1f&m8_3$S9We$S&Vn9voN@Wi2f]d+G4gF(zKlgv2?7(+%fUyieK]>SLY;p,ke!mzsANqctUX[RL[]%M.Q5=E(i?4J|h&ITHvu/Z6!NbY|!%AVV*fSySX~^25v%^$U;&O9SH)oz$C;x3P|%`e!2fpcss:m)FpG<4P$ZZAQ5e~>~.4<Qo5t@=BXgD|6)G5cxXK#Z])%'nYHbJI<mn&#L0ZK=sTKxlXKc3*B&T)~*.^NF?j`t@Y|wjKR5<Xr>x<8M@I7JZH;er0.5OH>ll;^~zEjw>Cwo9,qq.H(0R&;)l]j#w!p<P&#:4+@]510ZSp#!$z|T3=/7`4xMg]4I#h!z*J`w@;>0ter0AB$&@9YVI6|g]'G^O&*Y3'yl<1<S&ZU*'97)KC9Mn![4vg6G|K^+OpZ7S*s_C`Z$ZJf`]Kj#Ghw0AQHt_'dza1_$a9*_UCbQ?O3;M':TfT2sr8EUtCMg']7rEG%/wSJ~k%`o(^v(B#f8Ld|~5V1qv`>q&bfXAN_AjnwZx%H*|qo'x&@_^Nb1Y_J/H)iVj`BDU6E)JhX0tWI;JTa`0k+K0h&kLNNk96'nXPjH1t9>z6%P3ax?>*~vesE(mH3OB^Z~DnTi3+_:w2]WV`:[0hIna&j$LZrZv.AyPooDn9l5V;9p~;9g:#*$YLYVS,i=2ZWAKe0JomN_rA(o^O,3g;Z]ozu4*O<!Z4ZD|4?zdT%CtcRAp.%.e*3Bfo_JfA~hI%M4>hvE01`h7f,vB))@KRnmMH2N7tD]r<d$6G0H2D/u:e]q)A>~K2_b7>&a,e~m(AL.f2$K~JoL|Q)>YE[E0sGkJIyXrCA0,%.'[g@+/V>0)s]$<9)NLOo7rQ0;n#)y]#VRrYC`55W7)('[i/UQwe;O3XgiTIH91[4*]6TlxXXKQzl+0t=WENSSQ!f.nH9/;gS:KYC7o?^fdA>8&Y_WHJOG)UiB3l8CLnL?AGb$gogx//kGXUw(KJeDnt^Yq?Z/eeU?PDC8A?s?K6PMe@p5F9V;|W&EI'#^?]3,9Zrg)z%<S*5V[U.!45&vV84KWp9WNd3>f'Ao^*&nFG|$mPO?cm~tI/>;R@yx9@3i;y16`8l8;;<aSpkmmD~=1FO]k=:T[M5&G6$@#Y]L/atl>@uDLLkXpMmR.#,MGm0q`]g.+[HgGi'f]Rp2]e~`>U'yUwhdKDxB|u9m!k5gNTZ@zh@S)9ag(E.pAnB6+ofdGFkO7.E^W7PUs/]6dHGJ]AN77$(NKvn$oFV9>F]Jq2&abAtF%bQYW4'_@r6MumNQ8/1HqD]Ts*$1oVp35~QXEO';hMONWstK/a*0_c(<]g8ik)=o]QKtV_@r)4gnOKvO_)~.Bz&i&bp7*Fgd%Dq(hHU
@A,EyaGwR'u3HHRQ8&ZXLKW>`%f;#d'<~E`b/r7FHY%v@b@UUNcB~%bmk.)@1vD#oXYoG7k9]0p]5`*M68F|[kqSFVgi63cd,<^K$D1Fbz&i;Q$=lRp+!9a>cIinnx9.+r_8t!z(N^4|isnj!/lzm7?TYr`rp!S/iI/mR9x',;e9`(jKEq<+OoS'W^2^U5BIFPTUEiSQ!>y9E|igI3<rn8vNGO9O5Nx?~tvBdkL.ghg1@u3oWDmD~4Qt.f|f@WBdVNN:U6T.37A?0c6WQ+BAYUouil0fJMlT%VBOp<|HIQ0WeMq@p,i#E~@am|dm6B~N@4yRmmR0~8&[#6,j|WCOe%ojH&~`,7h`>kM/Nuw5$uV8?t[8KD`5^C+b/=oW%#g*uMN(O:0=([D2&Ubt<SY1]hb5_X$>na<R]LplR(oHcV?1(dz>EgI:HkNu=_E@XzX:qrT6kEEnVd1S_B+Q,'8|flott$+IU3/_Y~Fku8[0Pf7gF[Z<m|ecg19VxvYWQN`FW9sP@ub':Dg7Re%vKDQ>ByeFUs@?dGVWD7`Gv1pbQd277E.N'V,+d?,aEQbvzihqBhsm6#A#4Hr=UD?$nTdz)Qd_n~7~<hZ=%I=b+a$E](j:e8q$R3w%!x2R?X;C`;riOS[pk]]9Tw)uw`v)m`P:|fU|VrEbCO+'Wir)KyS3OZcReM1JZh<I+GSE#895L?TyrC`CcT:8`0xe+`5)P5_/CFRO(L+jZ&Uk.cJMiU|tRFY*%esL7w$mZ$7_'wrsM;GuR)Ld#y&q32y7GZ]Nnd~4dO%j3ed4rjU_7,NrS#TL&R%nF2#`Y<:k|kn8%`&h+uLj)7('Chdp9>lczMc,LPAcMgIkyLX#nlc%7=+~%EcG`Pi;35Muz24>X.,h#<pE#TC6_cy';OGUP_LWNk6)wpE0aocO1[_8[~E:nHRFF|TL#*@Elxk@o`0[4Z!kQ6BtN/8UTS@rK:@Yu]gZ(E(B?4KBD`roae8j&M_H?=BVNnc8Y[e;j?pK/JQ%GI+N29Shl+O0nPmUxBt%g?Of[.nlpCv?h772'TNrGasdpkgN476A#4<i7Pa42t3vI?jVt`6d>eS>L`0tC&Qg$!NupD&&D%3_0RnC;Ut)ycPcj<AYQJU7|QkO+;r>[xiOC6GQmPAfcG![cxxnbeSvF92F*z8%',6d+Em&bX(,?f#b#R5O7Dq:<hm,Un5@8Gd_#>661/+D(>:b6yMAFh4`/4N,1:BSXAp39e;HSt&1=HIlZRb_E3JZjj4?Zh9[7v~v4_=v`Xu]QF#qN.7tQ6AjnbIIFSOS+hw#9+OM)CfcNIY+<@Q#zJ'wbR*RBg2$RKy7[?6^Z)Ovsf*gLtfE[u5E~z$aQ:I=Nx$z=BjtH!~ukE]ttAam~g/(k`*&Vd<qFT(Gcfn|[~6Anz*I377Am!uEVt#CVc3ysN@i?Ef75dvm2Bs4c[pA]5a7#61m35pc_781!tHWbw0KA'dm'Z#E<BrL`plh'BKJ&uewGH@8@%B<T5ScFd5<E|d,;T&07U$4<ntTm?*R/yDu/7dg]u3U;zbrsXv)~&tWD9KZ.UU9'R>>>^EXy0'1xz5kAhTadDqQ>):c3)KPUYaVm?k|DM&q75ou&PpmrH++s,/fCx)koT(f506z77MU82A4A4P6@,xaSqcIRuM%`hzHOl!oR^IwGuok!P_XyNI~FDjf1(+0(t8K*J1Hp0fd@;1xU_s!5r`7y7'cX[;F&bO4j/aTa)wmiGIH1:x?2|0yFS_sHV8/5m_XcuWjS_?TdRKAJdS/;5(Iv#[7&>I2NcZ4xRr('Y&NbsRF1l'$_61vbM:yUVLDt.g@Ew*HZ4LvG'2I;h]Tp:K>>sDiH4$3/3*)L+:ZaYx.[*p9kOYB_1j|C/rYxpQ8iRPDcmw#jDd<x*o0jT'$Qhd&DEjUyF`!8NMR+W!X>T2&#xa>V1S5Ek^Jnw^f26*hkmBa|>C<Y&_l*:u(t&r;?E|A[,I,?~2EQbH!4FliT*(''OO2*^Q_3Iwf
.J]t#IXlp!3vD/`@YVE9L9N>1Crb)C#BUlr|sJ?)Az*~BUM:7S@*=z+jPju+Fg(sG67_be8?5Wo!.0Qls>B1Z.*D,k;s?!yCh7gN%5WY(hM:Tio$4)3V^YUQjQbM4X$GISO6+Pqoq_2k6bQns)w|FuCbzqe:|3iGJA'a#`lo3ohd&jQf~G~=!^z'#*lpiZ<]|9?W&ln+dTQ~%*K1=hi6i8zd=6vjzWpg*9+C.`n&xEuLTXM=#d;b8anjd$D)v?XVx+8'D~Hf2Jo_Yhau;zw+?8l)xiTXku&BSQGFdqk3Xe^a?LmHyK+e9ncNggc6b+N,>Ns_B5gts?oW`KH*#)Ps1W8^mAX_B5b4)N0~CqXI0q5ST1O+Zyxsq&RbN#405e)?Aa`.[Qm]t<AH5IqFvFu:r#QtRa[U.x$|~e.Qp1BP$9VU9'E#Ghu/,l*Q!JWmw'>:@kT%vu+8ny_>fUhpHtrEz%?#bQk0>~LXS7?M[4%?TfKGOE_*z;QK~Mb*>|!HI]~yH%Js0z&wdPU2VqzFHTyVhUqZHQHPZs[r/%Vxd$*xR+XsyU.u5H%0sL6/:'bg)ZnqWZ%'ooIu:,X[bL'Ue_nqH_eR'+tx&U!KliPOlkK48?*mRQWk6FA5r?,k(_8N95@'bUb~|~ed%Ii1LKD~jop5~jui1f9,NKbs^HotG,%GrA5B/|hc=o1").splitOn "\n\n").toArray

def table (n : Nat) : String := tables.getD n ""

end Geoscript.Text
